import DesignTokens.Proofs.Decimal.Rereading
import DesignTokens.Proofs.Expression.Quantities

/-!
Formatting of texts. A number at the front of a text becomes a double and is written as the plain
number that the double is rounded to; what stands behind it is kept, and other texts stay as they
are. Formatting once more changes nothing, though the number that was written need not become the
same double again:

    text  ──read──▶  double  ──written──▶  plain number + unit
                                              │  ▲
                                         read ▼  │ written
                                             double

An infinite double is written in letters, and letters are not read as a number. Plain numbers of few
digits are not changed by formatting at all.
-/

namespace DesignTokens

/-! ### Plain numbers as they are read -/

namespace PlainNumber

/-- A plain number as a number that may be read. -/
def toNumeral (p : PlainNumber) : Numeral where
  negative := p.negative
  whole := p.whole
  places := if p.places = [] then none else some p.places
  whole_digits := p.isWhole.digits
  places_digits := by
    intro f hf
    split_ifs at hf
    · cases hf
    · obtain rfl := Option.some.inj hf
      exact p.digits
  some_digit := .inl p.isWhole.ne_nil

theorem text_toNumeral (p : PlainNumber) : p.toNumeral.text = p.text := by
  unfold Numeral.text Numeral.unsigned text pointBefore toNumeral
  split_ifs with hplaces <;> simp

theorem size_toNumeral (p : PlainNumber) : p.toNumeral.size = p.size := by
  have hplaces : p.toNumeral.places.getD [] = p.places := by
    unfold toNumeral
    split_ifs with hnone <;> simp [hnone]
  rw [Numeral.size, hplaces]
  rfl

end PlainNumber

/-! ### What is written -/

section Written

variable {places : ℕ} {t unit : Text} {x : Double}

theorem formatText_of_quantity (h : Expression.ofText t = .quantity x unit) :
    formatText places t = x.trimmed places ++ unit := by
  rw [formatText, h]

theorem formatText_of_other (h : ∀ x unit, Expression.ofText t ≠ .quantity x unit) :
    formatText places t = t := by
  unfold formatText
  split
  · next x unit hread => exact absurd hread (h x unit)
  · rfl

/-- A plain number with something behind it is read as the double that it is rounded to. -/
theorem exists_formatText_plain (p : PlainNumber) (hunit : GoesBehind unit) (places : ℕ) :
    ∃ x, Double.Rounds p.negative p.size x ∧
      formatText places (p.text ++ unit) = x.trimmed places ++ unit := by
  have hread := Expression.ofText_text p.toNumeral hunit
  have hrounds := p.toNumeral.rounds_number unit
  rw [p.text_toNumeral] at hread
  rw [p.size_toNumeral] at hrounds
  exact ⟨_, hrounds, formatText_of_quantity hread⟩

/-- Letters in the place of a number are kept. -/
theorem formatText_infinite (places : ℕ) (negative : Bool) (unit : Text) :
    formatText places ((if negative then ['-'] else []) ++ "inf" ++ unit) =
      (if negative then ['-'] else []) ++ "inf" ++ unit := by
  refine formatText_of_other fun x unit' hread => ?_
  obtain ⟨n, ht, -, -⟩ := Expression.of_ofText_eq_quantity hread
  have hletter : n.unsigned ++ unit' ≠ "inf" ++ unit := fun heq =>
    n.head?_unsigned_ne (c := 'i') (by decide) (by decide) unit' (by rw [heq]; rfl)
  have hminus : n.unsigned ++ unit' ≠ '-' :: ("inf" ++ unit) := fun heq =>
    n.head?_unsigned_ne (c := '-') (by decide) (by decide) unit' (by rw [heq]; rfl)
  cases hsign : n.negative with
  | true =>
    rw [Numeral.text_of_negative hsign] at ht
    cases negative with
    | true => exact hletter (List.cons.inj ht).2.symm
    | false => cases ht
  | false =>
    rw [Numeral.text_of_not_negative hsign] at ht
    cases negative with
    | true => exact hminus ht.symm
    | false => exact hletter ht.symm

/-- What is written for a number is written again. -/
theorem formatText_written {negative : Bool} {q : ℚ} {w : Text} (hx : Double.Rounds negative q x)
    (hw : x.WrittenAs places w) (hunit : GoesBehind unit) :
    formatText places (w ++ unit) = w ++ unit := by
  cases hw with
  | @finite _ m e p hp =>
    cases hx with
    | finite hc =>
      obtain ⟨x', hx', hformat⟩ := exists_formatText_plain p hunit places
      rw [hformat, hp.reread hc hx']
  | infinite => exact formatText_infinite places _ unit

end Written

/-- Formatting a text once more does not change it: the number at its front has been written as the
plain number that its double is rounded to, with the same text behind it, and a text without a
number has been kept. -/
theorem formatting_idempotent (places : ℕ) (t : Text) :
    formatText places (formatText places t) = formatText places t ∧
      (∀ x unit, Expression.ofText t = .quantity x unit →
        ∃ w, x.WrittenAs places w ∧ formatText places t = w ++ unit) ∧
      ((∀ x unit, Expression.ofText t ≠ .quantity x unit) → formatText places t = t) := by
  have hwritten : ∀ x unit, Expression.ofText t = .quantity x unit →
      ∃ w, x.WrittenAs places w ∧ formatText places t = w ++ unit := by
    intro x unit hread
    obtain ⟨n, -, -, rfl⟩ := Expression.of_ofText_eq_quantity hread
    exact ⟨_, Double.writtenAs_trimmed (n.rounds_number unit) places, formatText_of_quantity hread⟩
  refine ⟨?_, hwritten, formatText_of_other⟩
  by_cases hquantity : ∃ x unit, Expression.ofText t = .quantity x unit
  · obtain ⟨x, unit, hread⟩ := hquantity
    obtain ⟨w, hw, hformat⟩ := hwritten x unit hread
    obtain ⟨n, -, hunit, rfl⟩ := Expression.of_ofText_eq_quantity hread
    rw [hformat, formatText_written (n.rounds_number unit) hw hunit]
  · have hother : formatText places t = t :=
      formatText_of_other fun x unit hread => hquantity ⟨x, unit, hread⟩
    rw [hother, hother]

-- the double that is read lies below the tie
example : formatText 2 "1.005em" = "1em" := by decide

/-- A plain number with few digits comes through formatting as it is: the digits of its whole part
and the places that may be written must not be more than fifteen together. -/
theorem short_numbers_unchanged (p : PlainNumber) {places : ℕ} {unit : Text}
    (hplaces : p.places.length ≤ places) (hshort : p.whole.length + places ≤ 15)
    (hunit : GoesBehind unit) : formatText places (p.text ++ unit) = p.text ++ unit := by
  obtain ⟨x, hx, hformat⟩ := exists_formatText_plain p hunit places
  rw [hformat, Double.reread_of_short hplaces hshort hx]

theorem short_numbers_unchanged_in_pixels :
    GoesBehind "px" ∧ formatText 4 "-16.6667px" = "-16.6667px" :=
  ⟨by decide, short_numbers_unchanged
    ⟨true, "16", "6667", isWhole_natText 16, fun _ => isDigit_of_mem_natText (n := 6667),
      by decide, by decide⟩ (by decide) (by decide) (by decide)⟩

end DesignTokens
