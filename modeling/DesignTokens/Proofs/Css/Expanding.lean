import DesignTokens.Proofs.Css.Scanning

/-!
How expansion goes over a text. One pass expands the declarations of one name. It looks for the name
behind a character that no name holds, reads the declaration that begins there, and goes on behind
the semicolon or brace that ends it:

    …  ;  name : value ;  …
       │  └─────┬──────┘  └── the pass goes on here, as if nothing stood in front
       └── stays

The fuel never runs out, so there are equations without it (`expandRest`): a character is passed
over if it is part of a name, or if no declaration begins behind it; otherwise the declaration is
spread. No declaration begins where there is no colon.
-/

namespace DesignTokens

/-- What comes first in a text is met before a character that it does not hold. -/
theorem exists_of_append_eq {a b t rest : Text} {stop : Char} (hstop : stop ∉ a)
    (h : a ++ b = t ++ stop :: rest) : ∃ more, t = a ++ more ∧ b = more ++ stop :: rest := by
  rcases List.append_eq_append_iff.mp h with ⟨more, ht, hb⟩ | ⟨more, ha, hrest⟩
  · exact ⟨more, ht, hb⟩
  · cases more with
    | nil =>
      rw [List.append_nil] at ha
      exact ⟨[], by rw [ha, List.append_nil], hrest.symm⟩
    | cons c more =>
      obtain ⟨rfl, -⟩ := List.cons.inj hrest
      exact absurd (ha ▸ List.mem_append_right t List.mem_cons_self) hstop

/-! ### One declaration -/

theorem mem_of_mem_trim {t : Text} {c : Char} (h : c ∈ Text.trim t) : c ∈ t := by
  rw [Text.trim, Text.trimEnd, List.mem_reverse] at h
  have hstart := (List.dropWhile_sublist _).mem h
  rw [List.mem_reverse] at hstart
  exact (List.dropWhile_sublist _).mem hstart

/-- Whether a character can be part of a value: all but what ends one. -/
def inValue (c : Char) : Bool := c != ';' && c != '}'

theorem inValue_eq_false_iff {c : Char} : inValue c = false ↔ c = ';' ∨ c = '}' := by
  rw [inValue, Bool.and_eq_false_iff, bne_eq_false_iff_eq, bne_eq_false_iff_eq]

theorem dropHead?_eq_some_iff {head t rest : Text} :
    Text.dropHead? head t = some rest ↔ t = head ++ rest := by
  unfold Text.dropHead?
  constructor
  · intro h
    split at h
    · next hprefix =>
      obtain ⟨more, rfl⟩ := List.isPrefixOf_iff_prefix.mp hprefix
      rw [List.drop_left] at h
      rw [Option.some.inj h]
    · cases h
  · rintro rfl
    rw [if_pos (List.isPrefixOf_iff_prefix.mpr (List.prefix_append head rest)), List.drop_left]

/-- A colon, behind nothing but blanks. -/
theorem trimStart_eq_colon_iff {t rest : Text} :
    Text.trimStart t = ':' :: rest ↔ ∃ gap, t = gap ++ ':' :: rest ∧ ∀ c ∈ gap, isBlank c := by
  constructor
  · intro h
    refine ⟨t.takeWhile isBlank, ?_, fun _ => List.mem_takeWhile_imp⟩
    rw [← h, Text.trimStart, List.takeWhile_append_dropWhile]
  · rintro ⟨gap, rfl, hgap⟩
    exact dropWhile_of_stop hgap (stop_cons (by decide) rest)

/-- What is read behind a name: blanks, a colon, a value that is not empty, and what ends it. -/
theorem readValue?_eq_some_iff {t value rest : Text} {stop : Char} :
    readValue? t = some (value, stop, rest) ↔
      ∃ gap raw, t = gap ++ ':' :: (raw ++ stop :: rest) ∧ (∀ c ∈ gap, isBlank c) ∧ raw ≠ [] ∧
        (∀ c ∈ raw, inValue c) ∧ inValue stop = false ∧ value = Text.trim raw := by
  constructor
  · intro h
    unfold readValue? at h
    split at h
    · next behind hcolon =>
      obtain ⟨gap, rfl, hgap⟩ := trimStart_eq_colon_iff.mp hcolon
      obtain ⟨raw, more, rfl, hraw, hmore⟩ := exists_run inValue behind
      simp only [show (fun c : Char => c != ';' && c != '}') = inValue from rfl,
        takeWhile_of_stop hraw hmore, dropWhile_of_stop hraw hmore] at h
      cases more with
      | nil => cases h
      | cons d more =>
        cases raw with
        | nil => cases h
        | cons c raw =>
          cases h
          exact ⟨gap, c :: raw, rfl, hgap, List.cons_ne_nil c raw, hraw, hmore _ rfl, rfl⟩
    · cases h
  · rintro ⟨gap, raw, rfl, hgap, hne, hraw, hstop, rfl⟩
    have hmore := stop_cons hstop rest
    have hempty : raw.isEmpty = false := by simpa using hne
    unfold readValue?
    rw [trimStart_eq_colon_iff.mpr ⟨gap, rfl, hgap⟩]
    simp only [show (fun c : Char => c != ';' && c != '}') = inValue from rfl,
      takeWhile_of_stop hraw hmore, dropWhile_of_stop hraw hmore, hempty, Bool.false_eq_true,
      if_false]

theorem readDeclaration?_eq_some_iff {name t value rest : Text} {stop : Char} :
    readDeclaration? name t = some (value, stop, rest) ↔
      ∃ gap raw, t = name ++ (gap ++ ':' :: (raw ++ stop :: rest)) ∧ (∀ c ∈ gap, isBlank c) ∧
        raw ≠ [] ∧ (∀ c ∈ raw, inValue c) ∧ inValue stop = false ∧ value = Text.trim raw := by
  rw [readDeclaration?, Option.bind_eq_some_iff]
  simp only [dropHead?_eq_some_iff, readValue?_eq_some_iff]
  constructor
  · rintro ⟨_, rfl, gap, raw, rfl, h⟩
    exact ⟨gap, raw, rfl, h⟩
  · rintro ⟨gap, raw, rfl, h⟩
    exact ⟨_, rfl, gap, raw, rfl, h⟩

theorem length_lt_of_readDeclaration? {name t value rest : Text} {stop : Char}
    (h : readDeclaration? name t = some (value, stop, rest)) : rest.length < t.length := by
  obtain ⟨gap, raw, rfl, -⟩ := readDeclaration?_eq_some_iff.mp h
  simp only [List.length_append, List.length_cons]
  omega

theorem readDeclaration?_cons {name : Text} (hname : IsPropertyName name) {c : Char}
    (hc : isNameChar c = false) (t : Text) : readDeclaration? name (c :: t) = none := by
  refine Option.eq_none_iff_forall_ne_some.mpr fun ⟨value, stop, behind⟩ hread => ?_
  obtain ⟨gap, raw, heq, -⟩ := readDeclaration?_eq_some_iff.mp hread
  obtain ⟨d, word, rfl⟩ := List.exists_cons_of_ne_nil hname.nonempty
  obtain ⟨rfl, -⟩ := List.cons.inj heq
  exact Bool.eq_false_iff.mp hc (hname.nameChars _ List.mem_cons_self)

/-- Nothing is read where no name begins. -/
theorem readDeclaration?_of_stop {name : Text} (hname : IsPropertyName name) {t : Text}
    (ht : ∀ c ∈ t.head?, isNameChar c = false) : readDeclaration? name t = none := by
  cases t with
  | nil =>
    refine Option.eq_none_iff_forall_ne_some.mpr fun ⟨value, stop, behind⟩ hread => ?_
    obtain ⟨gap, raw, heq, -⟩ := readDeclaration?_eq_some_iff.mp hread
    simp at heq
  | cons c t => exact readDeclaration?_cons hname (ht c rfl) t

/-- Behind a name there is no name, and so no declaration of another one. -/
theorem readDeclaration?_other {name other gap : Text} (hname : IsPropertyName name)
    (hother : IsPropertyName other) (hne : other ≠ name) (hgap : ∀ c ∈ gap, isBlank c) (t : Text) :
    readDeclaration? name (other ++ (gap ++ ':' :: t)) = none := by
  refine Option.eq_none_iff_forall_ne_some.mpr fun ⟨value, stop, behind⟩ hread => hne ?_
  obtain ⟨space, raw, heq, hspace, -⟩ := readDeclaration?_eq_some_iff.mp hread
  exact (eq_of_runs hother.nameChars hname.nameChars (stop_gap hgap _) (stop_gap hspace _) heq).1

/-- A character that stands neither in names nor between a name and its colon. -/
structure Divides (c : Char) : Prop where
  no_name : isNameChar c = false
  no_blank : isBlank c = false
  no_colon : c ≠ ':'

theorem divides_of_inValue {c : Char} (h : inValue c = false) : Divides c := by
  rcases inValue_eq_false_iff.mp h with rfl | rfl <;> exact ⟨by decide, by decide, by decide⟩

theorem divides_opening : Divides '{' := ⟨by decide, by decide, by decide⟩

/-- Where such a character stands first, a declaration has its colon in front of it. -/
theorem exists_of_readDeclaration? {name t rest value behind : Text} {stop ending : Char}
    (hname : IsPropertyName name) (hstop : Divides stop)
    (h : readDeclaration? name (t ++ stop :: rest) = some (value, ending, behind)) :
    ∃ gap more raw, t = name ++ (gap ++ ':' :: more) ∧ (∀ c ∈ gap, isBlank c) ∧ raw ≠ [] ∧
      (∀ c ∈ raw, inValue c) ∧ inValue ending = false ∧ value = Text.trim raw ∧
        raw ++ ending :: behind = more ++ stop :: rest := by
  obtain ⟨gap, raw, heq, hgap, hne, hraw, hending, hvalue⟩ := readDeclaration?_eq_some_iff.mp h
  have hfree : stop ∉ name ++ (gap ++ [':']) := by
    simp only [List.mem_append, List.mem_singleton, not_or]
    refine ⟨fun hmem => ?_, fun hmem => ?_, hstop.no_colon⟩
    · exact Bool.eq_false_iff.mp hstop.no_name (hname.nameChars stop hmem)
    · exact Bool.eq_false_iff.mp hstop.no_blank (hgap stop hmem)
  have hfront : (name ++ (gap ++ [':'])) ++ (raw ++ ending :: behind) = t ++ stop :: rest := by
    rw [heq]
    simp
  obtain ⟨more, rfl, hmore⟩ := exists_of_append_eq hfree hfront
  exact ⟨gap, more, raw, by simp, hgap, hne, hraw, hending, hvalue, hmore⟩

theorem readDeclaration?_of_no_colon {name t : Text} (ht : ':' ∉ t) :
    readDeclaration? name t = none := by
  refine Option.eq_none_iff_forall_ne_some.mpr fun ⟨value, stop, rest⟩ h => ht ?_
  obtain ⟨gap, raw, rfl, -⟩ := readDeclaration?_eq_some_iff.mp h
  simp

theorem readDeclaration?_of_divides {name t : Text} {stop : Char} (hname : IsPropertyName name)
    (ht : ':' ∉ t) (hstop : Divides stop) (rest : Text) :
    readDeclaration? name (t ++ stop :: rest) = none := by
  refine Option.eq_none_iff_forall_ne_some.mpr fun ⟨value, ending, behind⟩ h => ht ?_
  obtain ⟨gap, more, raw, rfl, -⟩ := exists_of_readDeclaration? hname hstop h
  simp

theorem no_colon_of_blank {t : Text} (ht : ∀ c ∈ t, isBlank c) : ':' ∉ t :=
  fun hmem => absurd (ht ':' hmem) (by decide)

/-! ### One pass -/

theorem Mapping.targets_ne_nil {m : Mapping} (hm : m.isMapped) : m.targets ≠ [] := by
  simpa [Mapping.isMapped] using hm

/-- The name and the targets of a mapping are names of properties. -/
structure Mapping.NamesProperties (m : Mapping) : Prop where
  name : IsPropertyName m.name
  targets : ∀ t ∈ m.targets, IsPropertyName t

instance : DecidablePred Mapping.NamesProperties := fun m =>
  decidable_of_iff (IsPropertyName m.name ∧ ∀ t ∈ m.targets, IsPropertyName t)
    ⟨fun ⟨hname, htargets⟩ => ⟨hname, htargets⟩, fun h => ⟨h.name, h.targets⟩⟩

/-- What a pass makes of a text that nothing stands in front of. -/
def expandRest (m : Mapping) (t : Text) : Text := expandFrom m t.length t

variable {m : Mapping}

theorem expandFrom_skip {c : Char} {t : Text}
    (h : isNameChar c ∨ readDeclaration? m.name t = none) (fuel : Nat) :
    expandFrom m (fuel + 1) (c :: t) = c :: expandFrom m fuel t := by
  have hnone : (if isNameChar c then none else readDeclaration? m.name t) = none := by
    split
    · rfl
    · next hc => exact h.resolve_left hc
  rw [expandFrom, hnone]

theorem expandFrom_found {c : Char} {t value rest : Text} {stop : Char}
    (hc : isNameChar c = false) (h : readDeclaration? m.name t = some (value, stop, rest))
    (fuel : Nat) :
    expandFrom m (fuel + 1) (c :: t) =
      c :: (spreadValue m.targets value stop ++ expandFrom m fuel rest) := by
  rw [expandFrom, hc]
  simp only [Bool.false_eq_true, if_false, h, List.cons_append]

/-- Fuel for every character is enough: more of it changes nothing. -/
theorem expandFrom_congr {k n : Nat} {t : Text} (hk : t.length ≤ k) (hn : t.length ≤ n) :
    expandFrom m k t = expandFrom m n t := by
  induction k generalizing n t with
  | zero =>
    rw [List.length_eq_zero_iff.mp (Nat.le_zero.mp hk)]
    cases n <;> rfl
  | succ k ih =>
    cases t with
    | nil => cases n <;> rfl
    | cons c t =>
      obtain ⟨n, rfl⟩ : ∃ j, n = j + 1 := ⟨n - 1, by simp at hn; omega⟩
      rw [List.length_cons, Nat.add_le_add_iff_right] at hk hn
      by_cases hskip : isNameChar c ∨ readDeclaration? m.name t = none
      · rw [expandFrom_skip hskip, expandFrom_skip hskip, ih hk hn]
      · obtain ⟨hc, hread⟩ := not_or.mp hskip
        obtain ⟨⟨value, stop, rest⟩, hread⟩ := Option.ne_none_iff_exists'.mp hread
        have hc := Bool.eq_false_iff.mpr hc
        have hrest := (length_lt_of_readDeclaration? hread).le
        rw [expandFrom_found hc hread, expandFrom_found hc hread,
          ih (hrest.trans hk) (hrest.trans hn)]

@[simp] theorem expandRest_nil (m : Mapping) : expandRest m [] = [] := rfl

/-- A character is passed over in a name, and where no declaration begins behind it. -/
theorem expandRest_skip {c : Char} {t : Text}
    (h : isNameChar c ∨ readDeclaration? m.name t = none) :
    expandRest m (c :: t) = c :: expandRest m t :=
  expandFrom_skip h t.length

/-- A declaration is spread, and the pass goes on behind it. -/
theorem expandRest_found {c : Char} {t value rest : Text} {stop : Char}
    (hc : isNameChar c = false) (h : readDeclaration? m.name t = some (value, stop, rest)) :
    expandRest m (c :: t) = c :: (spreadValue m.targets value stop ++ expandRest m rest) := by
  rw [expandRest, List.length_cons, expandFrom_found hc h,
    expandFrom_congr (length_lt_of_readDeclaration? h).le le_rfl]
  rfl

/-- A stretch is passed over if each of its characters is. -/
theorem expandRest_append {run t : Text}
    (h : ∀ before c after, run = before ++ c :: after →
      isNameChar c ∨ readDeclaration? m.name (after ++ t) = none) :
    expandRest m (run ++ t) = run ++ expandRest m t := by
  induction run with
  | nil => rfl
  | cons c run ih =>
    rw [List.cons_append, expandRest_skip (h [] c run rfl),
      ih fun before d after heq => h (c :: before) d after (by rw [heq]; rfl)]
    rfl

theorem expandRest_nameChars {run : Text} (hrun : ∀ c ∈ run, isNameChar c) (t : Text) :
    expandRest m (run ++ t) = run ++ expandRest m t :=
  expandRest_append fun before c _ heq =>
    .inl (hrun c (heq ▸ List.mem_append_right before List.mem_cons_self))

/-- A stretch without colons is passed over, if what is behind it is not taken for more of it. -/
theorem expandRest_no_colon {run : Text} {stop : Char} (hname : IsPropertyName m.name)
    (hrun : ':' ∉ run) (hstop : Divides stop) (rest : Text) :
    expandRest m (run ++ stop :: rest) = run ++ expandRest m (stop :: rest) := by
  refine expandRest_append fun before c after heq => .inr ?_
  refine readDeclaration?_of_divides hname (fun hmem => hrun ?_) hstop rest
  rw [heq]
  exact List.mem_append_right before (List.mem_cons_of_mem c hmem)

/-- A pass goes over characters that no name holds up to a place where nothing is read. -/
theorem expandRest_front (hname : IsPropertyName m.name) {front : Text}
    (hfront : ∀ c ∈ front, isNameChar c = false) {t : Text}
    (ht : readDeclaration? m.name t = none) :
    expandRest m (front ++ t) = front ++ expandRest m t := by
  refine expandRest_append fun before c after heq => .inr ?_
  cases after with
  | nil => exact ht
  | cons e after =>
    have he : e ∈ front := by rw [heq]; simp
    exact readDeclaration?_cons hname (hfront e he) _

/-- Nothing is read in a declaration behind its name. -/
theorem expandRest_declaration (hname : IsPropertyName m.name) {name gap value : Text}
    (hchars : ∀ c ∈ name, isNameChar c) (hgap : ∀ c ∈ gap, isBlank c) (hvalue : ':' ∉ value)
    {stop : Char} (hstop : Divides stop) (rest : Text) :
    expandRest m (name ++ (gap ++ ':' :: (value ++ stop :: rest))) =
      name ++ (gap ++ ':' :: (value ++ expandRest m (stop :: rest))) := by
  have hfront : ∀ c ∈ gap, isNameChar c = false := fun c hc => isNameChar_of_isBlank (hgap c hc)
  have hread : readDeclaration? m.name (value ++ stop :: rest) = none :=
    readDeclaration?_of_divides hname hvalue hstop rest
  rw [expandRest_nameChars hchars,
    expandRest_front hname hfront (readDeclaration?_cons hname (by decide) _),
    expandRest_skip (.inr hread), expandRest_no_colon hname hvalue hstop]

/-- Nothing is read in a text without colons. -/
theorem expandRest_of_no_colon {t : Text} (ht : ':' ∉ t) : expandRest m t = t := by
  have hpassed : expandRest m (t ++ []) = t ++ expandRest m [] := by
    refine expandRest_append fun before c after heq => .inr ?_
    refine readDeclaration?_of_no_colon fun hmem => ht ?_
    rw [heq]
    exact List.mem_append_right before (List.mem_cons_of_mem c (by simpa using hmem))
  simpa using hpassed

theorem expandMapping_of_some {t value rest : Text} {stop : Char}
    (h : readDeclaration? m.name t = some (value, stop, rest)) :
    expandMapping m t = spreadValue m.targets value stop ++ expandRest m rest := by
  rw [expandMapping, h]
  rfl

theorem expandMapping_of_none {t : Text} (h : readDeclaration? m.name t = none) :
    expandMapping m t = expandRest m t := by
  rw [expandMapping, h]
  rfl

/-- The start of a text is like a character that no name holds. -/
theorem expandRest_cons_eq {c : Char} (hc : isNameChar c = false) (t : Text) :
    expandRest m (c :: t) = c :: expandMapping m t := by
  cases hread : readDeclaration? m.name t with
  | none => rw [expandRest_skip (.inr hread), expandMapping_of_none hread]
  | some found =>
    obtain ⟨value, stop, rest⟩ := found
    rw [expandRest_found hc hread, expandMapping_of_some hread]

/-! ### All passes -/

theorem expandCustom_cons (hm : m.isMapped) (mappings : List Mapping) (t : Text) :
    expandCustom (m :: mappings) t = expandCustom mappings (expandMapping m t) := by
  rw [expandCustom, List.filter_cons_of_pos hm, List.foldl_cons]
  rfl

theorem expandCustom_of_unmapped (hm : m.isMapped = false) (mappings : List Mapping) (t : Text) :
    expandCustom (m :: mappings) t = expandCustom mappings t := by
  rw [expandCustom, List.filter_cons_of_neg (Bool.eq_false_iff.mp hm)]
  rfl

end DesignTokens
