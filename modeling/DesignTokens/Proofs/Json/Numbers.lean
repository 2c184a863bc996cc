import DesignTokens.Json.Lexeme
import DesignTokens.Proofs.Decimal.Digits
import Mathlib.Data.List.TakeWhile

/-!
Numbers as they are written and read. A written number is a word of its own. Integers that fit
sixty-four bits are read back as they were, and no other integer is ever read. A double need not be:
it is read in two roundings, so the fewest digits that tell it from its neighbours may be read as
one of them. What is read back is told by `ReadsBack`.
-/

namespace DesignTokens

namespace NumberText

theorem spanDigits_of_digits {t : Text} (h : ∀ c ∈ t, isDigit c) : spanDigits t = (t, []) := by
  rw [spanDigits, List.takeWhile_eq_self_iff.mpr h, List.dropWhile_eq_nil_iff.mpr h]

/-- The digits of a natural, behind a minus sign or not, are a number without fraction and
exponent. -/
theorem read?_natText (negative : Bool) (n : Nat) :
    read? ((if negative then ['-'] else []) ++ natText n) =
      some ⟨negative, natText n, none, none⟩ := by
  have hdigits : ∀ c ∈ natText n, isDigit c := fun c hc => isDigit_of_mem_natText hc
  have hsign : ∀ rest, natText n ≠ '-' :: rest := by
    intro rest heq
    have hminus : isDigit '-' := hdigits '-' (by rw [heq]; exact List.mem_cons_self ..)
    exact absurd hminus (by decide)
  -- a zero in front is the whole number
  have hzero : ¬((natText n).head? = some '0' ∧ (natText n).length ≠ 1) := by
    rintro ⟨hhead, hlength⟩
    rw [eq_zero_of_head?_natText hhead] at hlength
    exact hlength rfl
  have hwhole : ((natText n).isEmpty ||
      ((natText n).head? == some '0' && (natText n).length ≠ 1)) = false := by
    simpa [natText_ne_nil] using hzero
  cases negative with
  | false =>
    rw [if_neg Bool.false_ne_true, List.nil_append]
    unfold read?
    split
    next s t heq =>
    split at heq
    · next rest hminus => exact absurd hminus (hsign rest)
    · obtain ⟨rfl, rfl⟩ := Prod.mk.inj heq
      simp only [spanDigits_of_digits hdigits, hwhole, readExponent]
      rfl
  | true =>
    rw [if_pos rfl, List.singleton_append, read?]
    simp only [spanDigits_of_digits hdigits, hwhole, readExponent]
    rfl

end NumberText

namespace JsonNumber

/-- Integers take sixty-four bits, with a sign or without. -/
def InRange : JsonNumber → Prop
  | .integer i => -(Nat.pow 2 63 : Nat) ≤ i ∧ i < significandBound
  | .double _ => True

/-- The text that is written for the number is read as the number. -/
def ReadsBack (n : JsonNumber) : Prop := (NumberText.read? n.write).bind ofText? = some n

instance (n : JsonNumber) : Decidable n.ReadsBack :=
  inferInstanceAs (Decidable ((NumberText.read? n.write).bind ofText? = some n))

/-- Only integers that fit are read as integers. -/
theorem inRange_of_integer? {t : NumberText} {i : Int} (h : integer? t = some i) :
    (integer i).InRange := by
  unfold integer? at h
  show -(Nat.pow 2 63 : Nat) ≤ i ∧ i < significandBound
  split at h
  · simp only at h
    split at h
    · split at h
      · next hv =>
        obtain rfl := Option.some.inj h
        omega
      · cases h
    · split at h
      · next hv =>
        obtain rfl := Option.some.inj h
        omega
      · cases h
  · cases h

theorem inRange_of_ofText? {t : NumberText} {n : JsonNumber} (h : ofText? t = some n) :
    n.InRange := by
  unfold ofText? at h
  split at h
  · next i hi =>
    obtain rfl := Option.some.inj h
    exact inRange_of_integer? hi
  · obtain ⟨x, -, rfl⟩ := Option.map_eq_some_iff.mp h
    trivial

/-- An integer that fits is read back. -/
theorem readsBack_integer {i : Int} (h : (integer i).InRange) : (integer i).ReadsBack := by
  have hrange : -(Nat.pow 2 63 : Nat) ≤ i ∧ i < significandBound := h
  cases i with
  | ofNat n =>
    have hfits : n < significandBound := Int.ofNat_lt.mp hrange.2
    have hread : NumberText.read? (natText n) = some ⟨false, natText n, none, none⟩ :=
      NumberText.read?_natText false n
    show (NumberText.read? (natText n)).bind ofText? = _
    rw [hread, Option.bind_some, ofText?, integer?, natOf_natText]
    simp [hfits]
  | negSucc n =>
    have hfits : n + 1 ≤ Nat.pow 2 63 := by omega
    have hread : NumberText.read? ('-' :: natText (n + 1)) =
        some ⟨true, natText (n + 1), none, none⟩ := NumberText.read?_natText true (n + 1)
    show (NumberText.read? ('-' :: natText (n + 1))).bind ofText? = _
    rw [hread, Option.bind_some, ofText?, integer?, natOf_natText]
    simp [hfits, Int.negSucc_eq]

/-- Not every double is: `1.2345678901234567e+23` is read as its neighbour. -/
example : ¬(double (.finite false 7358598054191212 24)).ReadsBack := by decide

end JsonNumber

/-! ### Words -/

namespace Lexeme

/-- The text consists of the characters of words. -/
def IsWord (t : Text) : Prop := ∀ c ∈ t, isWordPart c

theorem isWord_of_all {t : Text} (h : t.all isWordPart = true) : IsWord t := List.all_eq_true.mp h

theorem isWord_nil : IsWord [] := fun _ h => absurd h List.not_mem_nil

theorem IsWord.cons {c : Char} (hc : isWordPart c) {t : Text} (ht : IsWord t) : IsWord (c :: t) :=
  List.forall_mem_cons.mpr ⟨hc, ht⟩

theorem IsWord.append {t u : Text} (ht : IsWord t) (hu : IsWord u) : IsWord (t ++ u) :=
  List.forall_mem_append.mpr ⟨ht, hu⟩

theorem IsWord.take {t : Text} (ht : IsWord t) (n : Nat) : IsWord (t.take n) :=
  fun c hc => ht c (List.mem_of_mem_take hc)

theorem IsWord.drop {t : Text} (ht : IsWord t) (n : Nat) : IsWord (t.drop n) :=
  fun c hc => ht c (List.mem_of_mem_drop hc)

theorem isWord_zeros (n : Nat) : IsWord (List.replicate n '0') := by
  intro c hc
  rw [List.eq_of_mem_replicate hc]
  decide

theorem isWord_natText (n : Nat) : IsWord (natText n) := by
  intro c hc
  have hdigit : isDigit c := isDigit_of_mem_natText hc
  simp [isWordPart, hdigit]

/-- A number is no other word. -/
theorem ofWord?_of_read? {word : Text} {t : NumberText} (h : NumberText.read? word = some t) :
    ofWord? word = some (.number t) := by
  have hother : ∀ other : Text, NumberText.read? other = none → word ≠ other := by
    rintro other hnone rfl
    rw [h] at hnone
    cases hnone
  rw [ofWord?, if_neg (hother _ (by decide)), if_neg (hother _ (by decide)),
    if_neg (hother _ (by decide)), h]
  rfl

end Lexeme

open Lexeme

/-- The exponent's sign, the point and the digits of a written decimal are all parts of words. -/
theorem NumberLayout.isWord_write (layout : NumberLayout) (d : Decimal) :
    IsWord (layout.write d) := by
  have hdigits : IsWord (natText d.digits) := isWord_natText d.digits
  unfold write
  simp only
  split
  · -- with an exponent
    refine IsWord.append (IsWord.append (hdigits.take 1) ?_) (IsWord.cons (by decide) ?_)
    · split
      · exact isWord_nil
      · exact IsWord.cons (by decide) (hdigits.drop 1)
    · refine IsWord.cons ?_ (isWord_natText _)
      split <;> decide
  · split
    · -- below one
      have hpoint : IsWord "0." := isWord_of_all rfl
      exact IsWord.append (hpoint.append (isWord_zeros _)) hdigits
    · split
      · -- whole
        have hpoint : IsWord ".0" := isWord_of_all rfl
        exact (hdigits.append (isWord_zeros _)).append hpoint
      · exact (hdigits.take _).append (IsWord.cons (by decide) (hdigits.drop _))

/-- A written number is a word. -/
theorem JsonNumber.isWord_write : ∀ n : JsonNumber, IsWord n.write
  | .integer (.ofNat n) => isWord_natText n
  | .integer (.negSucc n) => IsWord.cons (by decide) (isWord_natText (n + 1))
  | .double (.infinite _) => isWord_of_all (t := "null") rfl
  | .double (.finite negative m e) => by
    refine IsWord.append ?_ ?_
    · split
      · exact IsWord.cons (by decide) isWord_nil
      · exact isWord_nil
    · split
      · exact isWord_of_all (t := "0.0") rfl
      · exact NumberLayout.isWord_write _ _

end DesignTokens
