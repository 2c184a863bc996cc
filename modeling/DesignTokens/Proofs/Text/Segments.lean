import DesignTokens.Naming
import DesignTokens.Proofs.Text.Blanks
import DesignTokens.Proofs.Text.Splitting

/-!
Segments of keys that are joined. Keys may be joined by blanks and made a segment of as a whole, or
be made segments of one by one and then joined by what stands in for blanks:

    Display  1 · Font Size ── join by ' ' ──▶ Display  1 Font Size
             │                                        │
          segments                                 segment
             ▼                                        ▼
    display-1 · font-size ──── join by '-' ──▶ display-1-font-size

The blank between two keys is a run of its own as long as no key has a blank at its ends, so it is
replaced once (`replaceBlanks_join`). Making a text small works character by character where no
capital sigma stands, so it may be done piece by piece, and once more in the end
(`lowerIf_join_lowerIf`).
-/

namespace DesignTokens

namespace Text

/-! ### Replacing blanks -/

/-- The text is not empty and has no blank at either end. -/
structure Tight (t : Text) : Prop where
  ne_nil : t ≠ []
  head : ∀ c ∈ t.head?, ¬isBlank c
  last : ∀ c ∈ t.getLast?, ¬isBlank c

theorem tight_iff {t : Text} : t.Tight ↔
    t ≠ [] ∧ t.head?.all (!isBlank ·) ∧ t.getLast?.all (!isBlank ·) := by
  simp only [Option.all_eq_true, Bool.not_eq_true', Bool.eq_false_iff]
  exact ⟨fun ⟨hne, hhead, hlast⟩ => ⟨hne, hhead, hlast⟩,
    fun ⟨hne, hhead, hlast⟩ => ⟨hne, hhead, hlast⟩⟩

instance : DecidablePred Tight := fun _ => decidable_of_iff' _ tight_iff

section Blanks

variable {fresh : Text}

theorem mem_replaceBlanks {c : Char} {t : Text} :
    ∀ {inRun}, c ∈ replaceBlanks fresh inRun t → c ∈ fresh ∨ c ∈ t := by
  induction t with
  | nil => exact fun h => absurd h List.not_mem_nil
  | cons d rest ih =>
    intro inRun h
    rw [replaceBlanks] at h
    split at h
    · rcases List.mem_append.mp h with hfresh | hrest
      · cases inRun with
        | true => exact absurd hfresh List.not_mem_nil
        | false => exact .inl hfresh
      · exact (ih hrest).imp_right (List.mem_cons_of_mem d)
    · rcases List.mem_cons.mp h with rfl | hrest
      · exact .inr List.mem_cons_self
      · exact (ih hrest).imp_right (List.mem_cons_of_mem d)

/-- No run of blanks goes on behind a text that ends in none. -/
theorem replaceBlanks_append (b : Text) {a : Text} :
    a ≠ [] → (∀ c ∈ a.getLast?, ¬isBlank c) → ∀ inRun,
      replaceBlanks fresh inRun (a ++ b) =
        replaceBlanks fresh inRun a ++ replaceBlanks fresh false b := by
  induction a with
  | nil => exact fun hne => absurd rfl hne
  | cons c rest ih =>
    intro _ hlast inRun
    cases rest with
    | nil =>
      have hc : ¬isBlank c := hlast c rfl
      simp [replaceBlanks, hc]
    | cons d rest =>
      have hrest := ih (List.cons_ne_nil d rest) (by simpa using hlast)
      rw [List.cons_append, replaceBlanks, replaceBlanks, hrest, hrest]
      split
      · rw [List.append_assoc]
      · rfl

/-- Where no blank stands in front, it does not matter whether a run is going on. -/
theorem replaceBlanks_true {t : Text} (h : ∀ c ∈ t.head?, ¬isBlank c) :
    replaceBlanks fresh true t = replaceBlanks fresh false t := by
  cases t with
  | nil => rfl
  | cons c rest =>
    have hc : ¬isBlank c := h c rfl
    rw [replaceBlanks, replaceBlanks, if_neg hc, if_neg hc]

theorem head?_join {sep p : Text} (hp : p ≠ []) (pieces : List Text) :
    (join sep (p :: pieces)).head? = p.head? := by
  obtain ⟨c, rest, rfl⟩ := List.exists_cons_of_ne_nil hp
  cases pieces <;> rfl

/-- The blanks between keys are replaced like those within them. -/
theorem replaceBlanks_join : ∀ {keys : List Text}, (∀ key ∈ keys, key.Tight) →
    replaceBlanks fresh false (join [' '] keys) =
      join fresh (keys.map (replaceBlanks fresh false))
  | [], _ => rfl
  | [_], _ => rfl
  | p :: q :: rest, h => by
    obtain ⟨hp, hrest⟩ := List.forall_mem_cons.mp h
    obtain ⟨hq, -⟩ := List.forall_mem_cons.mp hrest
    have hhead : ∀ c ∈ (join [' '] (q :: rest)).head?, ¬isBlank c := by
      rw [head?_join hq.ne_nil]
      exact hq.head
    have hblank : isBlank ' ' := by decide
    rw [join_cons_cons, List.append_assoc, List.singleton_append,
      replaceBlanks_append _ hp.ne_nil hp.last, replaceBlanks, if_pos hblank,
      replaceBlanks_true hhead, replaceBlanks_join hrest]
    simp only [List.map_cons, join_cons_cons, List.append_assoc, Bool.false_eq_true, if_false]

end Blanks

/-! ### Lowering without a capital sigma -/

theorem lower_eq_flatMap {t : Text} (h : 'Σ' ∉ t) : lower t = t.flatMap smallForm := by
  have hafter : ∀ before, lowerAfter before t = t.flatMap smallForm := by
    induction t with
    | nil => exact fun _ => rfl
    | cons c rest ih =>
      intro before
      obtain ⟨hc, hrest⟩ := List.ne_and_not_mem_of_not_mem_cons h
      rw [lowerAfter, if_neg (Ne.symm hc), ih hrest, List.flatMap_cons]
  exact hafter []

theorem sigma_not_mem_lower (t : Text) : 'Σ' ∉ lower t :=
  fun h => absurd (small_lower t 'Σ' h) (by decide)

theorem lower_join_of_no_sigma {sep : Text} (hsep : 'Σ' ∉ sep) :
    ∀ {pieces : List Text}, (∀ p ∈ pieces, 'Σ' ∉ p) →
      lower (join sep pieces) = join (lower sep) (pieces.map lower)
  | [], _ => rfl
  | [_], _ => rfl
  | p :: q :: rest, h => by
    obtain ⟨hp, hrest⟩ := List.forall_mem_cons.mp h
    have hjoin : 'Σ' ∉ join sep (p :: q :: rest) := not_mem_join hsep h
    rw [lower_eq_flatMap hjoin, join_cons_cons, List.flatMap_append, List.flatMap_append,
      ← lower_eq_flatMap hp, ← lower_eq_flatMap hsep, ← lower_eq_flatMap (not_mem_join hsep hrest),
      lower_join_of_no_sigma hsep hrest]
    rfl

/-- Pieces may be made small before they are joined and made small. -/
theorem lowerIf_join_lowerIf {sep : Text} (hsep : 'Σ' ∉ sep) (wanted : Bool) {pieces : List Text}
    (h : ∀ p ∈ pieces, 'Σ' ∉ p) :
    lowerIf wanted (join sep (pieces.map (lowerIf wanted))) = lowerIf wanted (join sep pieces) := by
  cases wanted with
  | false => exact congrArg (join sep) (List.map_id pieces)
  | true =>
    have hlowered : ∀ p ∈ pieces.map lower, 'Σ' ∉ p := by
      rintro p hp
      obtain ⟨piece, -, rfl⟩ := List.mem_map.mp hp
      exact sigma_not_mem_lower piece
    show lower (join sep (pieces.map lower)) = lower (join sep pieces)
    rw [lower_join_of_no_sigma hsep hlowered, lower_join_of_no_sigma hsep h, List.map_map]
    exact congrArg (join (lower sep)) (List.map_congr_left fun p _ => lower_lower p)

/-! ### Texts that are not empty -/

theorem smallForm_ne_nil (c : Char) : smallForm c ≠ [] := by
  unfold smallForm
  repeat' split
  all_goals simp

theorem lower_ne_nil {t : Text} (h : t ≠ []) : lower t ≠ [] := by
  cases t with
  | nil => exact absurd rfl h
  | cons c rest =>
    rw [lower, lowerAfter]
    refine List.append_ne_nil_of_left_ne_nil ?_ _
    split
    · exact List.cons_ne_nil _ _
    · exact smallForm_ne_nil c

end Text

/-! ### Segments -/

variable {replacement : Text} {lowercase : Bool}

/-- The segment of keys that are joined by blanks is that of their segments, joined by what stands
in for blanks. -/
theorem segment_join (hsigma : 'Σ' ∉ replacement) {keys : List Text}
    (hkeys : ∀ key ∈ keys, key.Tight ∧ 'Σ' ∉ key) :
    segment replacement lowercase (Text.join [' '] keys) =
      Text.lowerIf lowercase
        (Text.join replacement (keys.map (segment replacement lowercase))) := by
  have hpieces : ∀ p ∈ keys.map (Text.replaceBlanks replacement false), 'Σ' ∉ p := by
    rintro p hp hmem
    obtain ⟨key, hkey, rfl⟩ := List.mem_map.mp hp
    exact (Text.mem_replaceBlanks hmem).elim hsigma (hkeys key hkey).2
  rw [segment, Text.replaceBlanks_join fun key hkey => (hkeys key hkey).1,
    ← Text.lowerIf_join_lowerIf hsigma lowercase hpieces, List.map_map]
  rfl

/-- The segment of a text that does not start with a blank is not empty. -/
theorem segment_ne_nil {t : Text} (hne : t ≠ []) (hhead : ∀ c ∈ t.head?, ¬isBlank c) :
    segment replacement lowercase t ≠ [] := by
  have hreplaced : Text.replaceBlanks replacement false t ≠ [] := by
    cases t with
    | nil => exact absurd rfl hne
    | cons c rest =>
      rw [Text.replaceBlanks, if_neg (hhead c rfl)]
      exact List.cons_ne_nil _ _
  cases lowercase with
  | false => exact hreplaced
  | true => exact Text.lower_ne_nil hreplaced

/-- Nor is that of keys that are joined, the first of which is in front. -/
theorem segment_join_ne_nil {key : Text} (h : key.Tight) (keys : List Text) :
    segment replacement lowercase (Text.join [' '] (key :: keys)) ≠ [] := by
  have hhead : (Text.join [' '] (key :: keys)).head? = key.head? := Text.head?_join h.ne_nil keys
  refine segment_ne_nil (fun hnil => ?_) (hhead ▸ h.head)
  rw [hnil] at hhead
  exact h.ne_nil (List.head?_eq_none_iff.mp hhead.symm)

end DesignTokens
