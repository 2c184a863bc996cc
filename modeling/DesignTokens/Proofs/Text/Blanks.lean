import DesignTokens.Proofs.Text.Lowering
import DesignTokens.Text.Blank

/-!
Blanks and small letters keep out of each other's way: a blank is small already, and no other
character becomes a blank when it is made small. So whether a text holds blanks (`Unbroken`, if it
does not) is not changed by lowering. Replacing the blanks of a text by something without blanks
leaves none, and leaves a text without blanks as it is.
-/

namespace DesignTokens

/-! ### Blanks and the table of small letters -/

/-- The code points of the blanks. -/
def blankCodes : List Nat :=
  [9, 10, 11, 12, 13, 0x20, 0x85, 0xA0, 0x1680, 0x2000, 0x2001, 0x2002, 0x2003, 0x2004, 0x2005,
    0x2006, 0x2007, 0x2008, 0x2009, 0x200A, 0x2028, 0x2029, 0x202F, 0x205F, 0x3000]

theorem toNat_mem_blankCodes {c : Char} (h : isBlank c) : c.toNat ∈ blankCodes := by
  simp only [isBlank, Bool.or_eq_true, Bool.and_eq_true, decide_eq_true_eq, beq_iff_eq] at h
  simp only [blankCodes, List.mem_cons, List.not_mem_nil, or_false]
  omega

/-- No run leads to a blank. -/
theorem images_no_blank : ∀ run ∈ smallForms, ∀ n ∈ blankCodes, ¬run.images.covers n := by
  decide +kernel

theorem smallForm_of_isBlank {c : Char} (h : isBlank c) : smallForm c = [c] := by
  have hall : ∀ n ∈ blankCodes, smallForm (Char.ofNat n) = [Char.ofNat n] := by decide
  simpa only [Char.ofNat_toNat] using hall c.toNat (toNat_mem_blankCodes h)

/-- Only a blank has a blank in its small form. -/
theorem isBlank_of_mem_smallForm {c d : Char} (h : d ∈ smallForm c) (hd : isBlank d) :
    isBlank c := by
  -- a letter of ASCII, the dotted capital, a capital of the table, and all that stay as they are
  unfold smallForm at h
  split at h
  · next hascii =>
    have hall : ∀ n < 128, isBlank (Char.ofNat n).toLower → isBlank (Char.ofNat n) := by
      decide +kernel
    have hc := hall c.toNat hascii
    rw [Char.ofNat_toNat, ← List.mem_singleton.mp h] at hc
    exact hc hd
  · split at h
    · have hall : (['i', '\u0307'].all fun d => !isBlank d) = true := by decide
      have hnot := List.all_eq_true.mp hall d h
      rw [hd] at hnot
      cases hnot
    · split at h
      · next run hfind =>
        have hrun := List.mem_of_find?_eq_some hfind
        have hcovers := List.find?_some hfind
        refine absurd (CaseRun.covers_images hcovers) ?_
        rw [← toNat_image hrun hcovers, ← List.mem_singleton.mp h]
        exact images_no_blank run hrun d.toNat (toNat_mem_blankCodes hd)
      · rw [← List.mem_singleton.mp h]
        exact hd

namespace Text

/-- The text holds no blanks. -/
def Unbroken (t : Text) : Prop := ∀ c ∈ t, ¬isBlank c

-- by the characters of the text: the instance that is found first goes through all there are
instance : DecidablePred Unbroken := fun t => List.decidableBAll (fun c => ¬isBlank c) t

theorem unbroken_append {a b : Text} : Unbroken (a ++ b) ↔ Unbroken a ∧ Unbroken b :=
  List.forall_mem_append

theorem unbroken_join {sep : Text} (hsep : Unbroken sep) :
    ∀ {pieces : List Text}, Unbroken (join sep pieces) ↔ ∀ p ∈ pieces, Unbroken p
  | [] => by simp [join, Unbroken]
  | [p] => by simp [join]
  | p :: q :: rest => by
    rw [join_cons_cons, unbroken_append, unbroken_append, unbroken_join hsep,
      List.forall_mem_cons (l := q :: rest)]
    simp only [hsep, and_true]

/-! ### Lowering -/

theorem unbroken_smallForm_iff {c : Char} : Unbroken (smallForm c) ↔ ¬isBlank c := by
  constructor
  · intro h hc
    rw [smallForm_of_isBlank hc] at h
    exact h c (List.mem_singleton_self c) hc
  · exact fun hc _ hd hblank => hc (isBlank_of_mem_smallForm hd hblank)

theorem unbroken_smallSigma (before after : Text) : Unbroken [smallSigma before after] := by
  rw [smallSigma]
  split
  · exact List.forall_mem_singleton.mpr (by decide)
  · exact List.forall_mem_singleton.mpr (by decide)

theorem unbroken_lowerAfter_iff (t : Text) :
    ∀ before, Unbroken (lowerAfter before t) ↔ Unbroken t := by
  induction t with
  | nil => exact fun _ => Iff.rfl
  | cons c rest ih =>
    intro before
    have hcons : Unbroken (c :: rest) ↔ ¬isBlank c ∧ Unbroken rest := List.forall_mem_cons
    rw [lowerAfter, unbroken_append, ih, hcons]
    refine and_congr_left fun _ => ?_
    split
    · next hsigma =>
      rw [hsigma]
      exact iff_of_true (unbroken_smallSigma before rest) (by decide)
    · exact unbroken_smallForm_iff

theorem unbroken_lower_iff {t : Text} : Unbroken (lower t) ↔ Unbroken t :=
  unbroken_lowerAfter_iff t []

/-! ### Replacing -/

theorem unbroken_replaceBlanks {fresh : Text} (h : Unbroken fresh) (t : Text) :
    ∀ inRun, Unbroken (replaceBlanks fresh inRun t) := by
  induction t with
  | nil => exact fun _ _ hc => absurd hc List.not_mem_nil
  | cons c rest ih =>
    intro inRun
    rw [replaceBlanks]
    split
    · rw [unbroken_append]
      refine ⟨?_, ih true⟩
      cases inRun with
      | true => exact fun _ hc => absurd hc List.not_mem_nil
      | false => exact h
    · next hc => exact List.forall_mem_cons.mpr ⟨hc, ih false⟩

theorem replaceBlanks_of_unbroken (fresh : Text) {t : Text} (h : Unbroken t) :
    ∀ inRun, replaceBlanks fresh inRun t = t := by
  induction t with
  | nil => exact fun _ => rfl
  | cons c rest ih =>
    intro inRun
    obtain ⟨hc, hrest⟩ := List.forall_mem_cons.mp h
    rw [replaceBlanks, if_neg hc, ih hrest]

end Text

end DesignTokens
