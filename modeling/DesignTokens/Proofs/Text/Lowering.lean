import DesignTokens.Text.Case

/-!
Small letters stay small. The images of the runs meet none of the runs, so no character that comes
out of the table changes again; a text is small when none of its characters changes, what lowering
gives is small, and lowering leaves a small text as it is:

    Σ ── lower ──▶ σ or ς ── lower ──▶ the same

The end of a word matters to a capital sigma only. Small texts may therefore be joined and lowered
again at will.
-/

namespace DesignTokens

theorem toNat_ofNat {n : Nat} (h : n.isValidChar) : (Char.ofNat n).toNat = n := by
  rw [Char.ofNat, dif_pos h]
  rfl

/-! ### Runs and their images -/

namespace CaseRun

/-- The small forms of the run's characters. -/
def images (run : CaseRun) : CaseRun where
  first := run.image
  last := run.image + (run.last - run.first)
  step := run.step
  image := run.image

/-- Whether all characters of the run have the parity of its first. -/
def keepsParity (run : CaseRun) : Bool := run.step % 2 == 0 || run.first == run.last

/-- Two runs without a common character: one ends before the other begins, or they alternate. -/
def apart (r s : CaseRun) : Bool :=
  r.last < s.first || s.last < r.first ||
    (r.keepsParity && s.keepsParity && (r.first + s.first) % 2 == 1)

theorem covers_iff {run : CaseRun} {n : Nat} :
    run.covers n ↔ run.first ≤ n ∧ n ≤ run.last ∧ (n - run.first) % run.step = 0 := by
  simp [covers, and_assoc]

theorem covers_images {run : CaseRun} {n : Nat} (h : run.covers n) :
    run.images.covers (run.image + (n - run.first)) := by
  obtain ⟨hfirst, hlast, hstep⟩ := covers_iff.mp h
  refine covers_iff.mpr ⟨Nat.le_add_right .., ?_, ?_⟩
  · exact Nat.add_le_add_left (Nat.sub_le_sub_right hlast _) _
  · rwa [images, Nat.add_sub_cancel_left]

theorem parity_of_covers {run : CaseRun} {n : Nat} (hkeeps : run.keepsParity) (h : run.covers n) :
    n % 2 = run.first % 2 := by
  obtain ⟨hfirst, hlast, hstep⟩ := covers_iff.mp h
  rcases Bool.or_eq_true_iff.mp hkeeps with heven | hsingle
  · have hdvd : 2 ∣ n - run.first :=
      Nat.dvd_trans (Nat.dvd_of_mod_eq_zero (beq_iff_eq.mp heven)) (Nat.dvd_of_mod_eq_zero hstep)
    omega
  · have hle := beq_iff_eq.mp hsingle
    omega

theorem not_covers_of_apart {r s : CaseRun} {n : Nat} (h : r.apart s) (hr : r.covers n) :
    ¬s.covers n := by
  intro hs
  obtain ⟨hrfirst, hrlast, -⟩ := covers_iff.mp hr
  obtain ⟨hsfirst, hslast, -⟩ := covers_iff.mp hs
  simp only [apart, Bool.or_eq_true, Bool.and_eq_true, decide_eq_true_eq, beq_iff_eq] at h
  rcases h with (h | h) | ⟨⟨hrkeeps, hskeeps⟩, hodd⟩
  · omega
  · omega
  · have hrn := parity_of_covers hrkeeps hr
    have hsn := parity_of_covers hskeeps hs
    omega

end CaseRun

/-! ### The table -/

theorem images_apart_all : (smallForms.all fun r => smallForms.all r.images.apart) = true := by
  decide +kernel

theorem images_apart {r s : CaseRun} (hr : r ∈ smallForms) (hs : s ∈ smallForms) :
    r.images.apart s :=
  List.all_eq_true.mp (List.all_eq_true.mp images_apart_all r hr) s hs

/-- The images are characters, and none of them is the one capital without a run. -/
theorem images_valid : ∀ run ∈ smallForms,
    (run.images.last < 0xD800 ∨ 0xDFFF < run.images.first ∧ run.images.last < 0x110000) ∧
      ¬run.images.covers 'İ'.toNat := by
  decide +kernel

/-- A character that no run covers keeps its form. -/
theorem smallForm_of_not_covers {c : Char} (hne : c ≠ 'İ')
    (h : ∀ run ∈ smallForms, ¬run.covers c.toNat) : smallForm c = [c] := by
  unfold smallForm
  by_cases hascii : c.toNat < 128
  · -- the first run covers the capitals of the seven-bit part
    have hcapital : ¬CaseRun.covers c.toNat ⟨0x41, 0x5A, 1, 0x61⟩ := h _ (List.mem_cons_self ..)
    have hkeep : c.toLower = c := by
      refine dif_neg ?_
      rintro ⟨hfirst, hlast⟩
      exact hcapital (CaseRun.covers_iff.mpr ⟨hfirst, hlast, Nat.mod_one _⟩)
    rw [if_pos hascii, hkeep]
  · rw [if_neg hascii, if_neg hne, List.find?_eq_none.mpr h]

theorem smallForm_toLower {c : Char} (h : c.toNat < 128) : smallForm c.toLower = [c.toLower] := by
  have hall : ∀ n < 128, smallForm (Char.ofNat n).toLower = [(Char.ofNat n).toLower] := by
    decide
  simpa only [Char.ofNat_toNat] using hall c.toNat h

/-- What a run makes of a character is the character of that number. -/
theorem toNat_image {run : CaseRun} (hrun : run ∈ smallForms) {n : Nat} (h : run.covers n) :
    (Char.ofNat (run.image + (n - run.first))).toNat = run.image + (n - run.first) := by
  obtain ⟨hfirst, hlast, -⟩ := CaseRun.covers_iff.mp (CaseRun.covers_images h)
  exact toNat_ofNat ((images_valid run hrun).1.imp (by omega) (by omega))

/-- What a run makes of a character keeps its form. -/
theorem smallForm_image {run : CaseRun} (hrun : run ∈ smallForms) {n : Nat} (h : run.covers n) :
    smallForm (Char.ofNat (run.image + (n - run.first))) =
      [Char.ofNat (run.image + (n - run.first))] := by
  have himage := CaseRun.covers_images h
  have hchar := toNat_image hrun h
  refine smallForm_of_not_covers (fun heq => ?_) fun other hother => ?_
  · rw [heq] at hchar
    exact (images_valid run hrun).2 (hchar ▸ himage)
  · rw [hchar]
    exact CaseRun.not_covers_of_apart (images_apart hrun hother) himage

/-- What becomes of the dotted capital and of a capital sigma keeps its form. -/
theorem smallForm_of_special {c : Char} (h : c ∈ ['i', '\u0307', 'σ', 'ς']) :
    smallForm c = [c] := by
  have hall : (['i', '\u0307', 'σ', 'ς'].all fun c => smallForm c == [c]) = true := by
    decide
  exact beq_iff_eq.mp (List.all_eq_true.mp hall c h)

/-- The characters of a small form keep theirs. -/
theorem smallForm_of_mem {c d : Char} (h : d ∈ smallForm c) : smallForm d = [d] := by
  unfold smallForm at h
  split at h
  · next hascii =>
    rw [List.mem_singleton.mp h]
    exact smallForm_toLower hascii
  · split at h
    · -- the dotted capital, the only one with two characters
      exact smallForm_of_special (List.mem_append_left ['σ', 'ς'] h)
    · next hne =>
      split at h
      · next run hfind =>
        rw [List.mem_singleton.mp h]
        exact smallForm_image (List.mem_of_find?_eq_some hfind) (List.find?_some hfind)
      · next hfind =>
        rw [List.mem_singleton.mp h]
        exact smallForm_of_not_covers hne (List.find?_eq_none.mp hfind)

namespace Text

/-! ### Small texts -/

/-- No character of the text changes when it is made small. -/
def Small (t : Text) : Prop := ∀ c ∈ t, smallForm c = [c]

theorem small_append {a b : Text} : Small (a ++ b) ↔ Small a ∧ Small b := List.forall_mem_append

theorem Small.join {sep : Text} (hsep : Small sep) :
    ∀ {pieces : List Text}, (∀ p ∈ pieces, Small p) → Small (join sep pieces)
  | [], _ => fun _ hc => absurd hc List.not_mem_nil
  | [p], h => h p (List.mem_singleton_self p)
  | p :: q :: rest, h => by
    obtain ⟨hp, hrest⟩ := List.forall_mem_cons.mp h
    rw [join_cons_cons, small_append, small_append]
    exact ⟨⟨hp, hsep⟩, hsep.join hrest⟩

theorem small_lowerAfter (t : Text) : ∀ before, Small (lowerAfter before t) := by
  induction t with
  | nil => exact fun _ _ hc => absurd hc List.not_mem_nil
  | cons c rest ih =>
    intro before
    rw [lowerAfter, small_append]
    refine ⟨?_, ih (c :: before)⟩
    split
    · -- either small sigma
      intro d hd
      rw [List.mem_singleton.mp hd, smallSigma]
      split
      · exact smallForm_of_special (by decide)
      · exact smallForm_of_special (by decide)
    · exact fun d hd => smallForm_of_mem hd

theorem small_lower (t : Text) : Small (lower t) := small_lowerAfter t []

theorem Small.lowerAfter_eq {t : Text} (h : Small t) : ∀ before, lowerAfter before t = t := by
  induction t with
  | nil => exact fun _ => rfl
  | cons c rest ih =>
    intro before
    obtain ⟨hc, hrest⟩ := List.forall_mem_cons.mp h
    have hsigma : c ≠ 'Σ' := by
      rintro rfl
      exact absurd hc (by decide)
    rw [lowerAfter, if_neg hsigma, hc, ih hrest]
    rfl

/-- The small texts are those that lowering leaves as they are. -/
theorem lower_eq_self_iff {t : Text} : lower t = t ↔ Small t :=
  ⟨fun h => h ▸ small_lower t, fun h => h.lowerAfter_eq []⟩

theorem lower_lower (t : Text) : lower (lower t) = lower t := lower_eq_self_iff.mpr (small_lower t)

/-- Pieces that have been lowered, or left alone, may be joined before or after it. -/
theorem lowerIf_join {wanted : Bool} {sep : Text} (hsep : wanted → lower sep = sep)
    (pieces : List Text) :
    lowerIf wanted (join sep (pieces.map (lowerIf wanted))) =
      join sep (pieces.map (lowerIf wanted)) := by
  cases wanted with
  | false => rfl
  | true =>
    refine lower_eq_self_iff.mpr (Small.join (lower_eq_self_iff.mp (hsep rfl)) ?_)
    rintro p hp
    obtain ⟨piece, _, rfl⟩ := List.mem_map.mp hp
    exact small_lower piece

end Text

end DesignTokens
