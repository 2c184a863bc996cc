import DesignTokens.Proofs.Text.Lowering

/-!
Lowering across the end of a word. What a capital sigma becomes depends on the nearest characters on
either side that are not passed over. A character that is neither passed over nor has a case hides
everything behind it from such a look:

    … Σ ' '  ──▶  the end of a word is seen at once, whatever follows the blank

So a text may be cut at these characters, its pieces made small one by one, and the pieces put
together again (`lower_append`, `lower_join`).
-/

namespace DesignTokens

/-- Whether the character ends a word: it has no case and is not passed over. -/
def endsWord (c : Char) : Bool := !isCased c && !isCaseIgnorable c

theorem endsWord_iff {c : Char} :
    endsWord c ↔ isCased c = false ∧ isCaseIgnorable c = false := by
  rw [endsWord, Bool.and_eq_true, Bool.not_eq_true', Bool.not_eq_true']

theorem endsWord_dash : endsWord '-' := by decide

theorem ne_sigma_of_endsWord {c : Char} (h : endsWord c) : c ≠ 'Σ' := by
  rintro rfl
  exact absurd h (by decide)

namespace Text

variable {c : Char}

/-- No look passes the end of a word. -/
theorem meetsCased_append (h : endsWord c) (a b : Text) :
    meetsCased (a ++ c :: b) = meetsCased a := by
  obtain ⟨hcased, hignorable⟩ := endsWord_iff.mp h
  unfold meetsCased
  induction a with
  | nil => simp [hcased, hignorable]
  | cons d a ih =>
    rw [List.cons_append, List.dropWhile_cons, List.dropWhile_cons]
    cases isCaseIgnorable d with
    | true => exact ih
    | false => rfl

/-- What stands before the end of a word has no influence on what follows it. -/
theorem lowerAfter_append (h : endsWord c) (before t : Text) :
    ∀ near, lowerAfter (near ++ c :: before) t = lowerAfter near t := by
  induction t with
  | nil => exact fun _ => rfl
  | cons d rest ih =>
    intro near
    have hsigma : smallSigma (near ++ c :: before) rest = smallSigma near rest := by
      rw [smallSigma, smallSigma, meetsCased_append h]
    rw [lowerAfter, lowerAfter, hsigma, ← List.cons_append, ih]

theorem lowerAfter_of_append (h : endsWord c) (b a : Text) :
    ∀ before, lowerAfter before (a ++ c :: b) = lowerAfter before a ++ smallForm c ++ lower b := by
  induction a with
  | nil =>
    intro before
    have hbehind : lowerAfter (c :: before) b = lower b := lowerAfter_append h before b []
    rw [List.nil_append, lowerAfter, lowerAfter, if_neg (ne_sigma_of_endsWord h), hbehind,
      List.nil_append]
  | cons d a ih =>
    intro before
    have hsigma : smallSigma before (a ++ c :: b) = smallSigma before a := by
      rw [smallSigma, smallSigma, meetsCased_append h]
    rw [List.cons_append, lowerAfter, lowerAfter, hsigma, ih]
    simp only [List.append_assoc]

/-- Both sides of the end of a word are made small on their own. -/
theorem lower_append (h : endsWord c) (a b : Text) :
    lower (a ++ c :: b) = lower a ++ smallForm c ++ lower b := lowerAfter_of_append h b a []

theorem lower_join (h : endsWord c) :
    ∀ pieces : List Text, lower (join [c] pieces) = join (smallForm c) (pieces.map lower)
  | [] => rfl
  | [_] => rfl
  | p :: q :: rest => by
    rw [join_cons_cons, List.append_assoc, List.singleton_append, lower_append h,
      lower_join h (q :: rest)]
    rfl

end Text

end DesignTokens
