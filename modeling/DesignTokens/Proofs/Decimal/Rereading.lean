import DesignTokens.Proofs.Decimal.Writing

/-!
A written number that is read again. The number that is read lies on a grid of tens, the double
that it becomes on a grid of twos, and writing takes it back to the grid of tens. It arrives where
it came from in two cases:

* The number was itself written for a double. The new double is no farther from it than the old one
  was, so it is rounded to the same number (`RoundedTo.reread`).
* The number is short. Then the doubles lie so close together that the nearest one is less than half
  a unit of the last place away (`reread_of_short`).
-/

namespace DesignTokens.Double

variable {negative : Bool} {m : ℕ} {e : ℤ} {places : ℕ} {p : PlainNumber} {x : Double}

/-- A distance from a plain number, measured in its units. -/
theorem abs_units_sub (h : p.places.length ≤ places) (y : ℚ) :
    |(p.units places : ℚ) - y * 10 ^ places| = 10 ^ places * |y - p.size| := by
  have hpos : (0 : ℚ) < 10 ^ places := by positivity
  have hunits : (p.units places : ℚ) - y * 10 ^ places = 10 ^ places * (p.size - y) := by
    rw [← p.size_mul_pow h]
    ring
  rw [hunits, abs_mul, abs_of_pos hpos, abs_sub_comm]

/-! ### Numbers that were written for doubles -/

/-- A number that a double is rounded to is less than the overflow. -/
theorem RoundedTo.size_lt_overflow (hp : RoundedTo places negative m e p) (hc : Canonical m e) :
    p.size < overflow := by
  have hone : (1 : ℚ) ≤ 10 ^ places := one_le_pow₀ (by norm_num)
  have hnear := hp.nearest.near
  rw [abs_units_sub hp.places_le] at hnear
  have hclose : |size m e - p.size| ≤ 1 / 2 :=
    calc |size m e - p.size| ≤ 10 ^ places * |size m e - p.size| :=
          le_mul_of_one_le_left (abs_nonneg _) hone
      _ ≤ 1 / 2 := hnear
  linarith [(abs_le.mp hclose).1, hc.add_half_lt]

/-- A number that a double is rounded to is written again when it is read. -/
theorem RoundedTo.reread (hp : RoundedTo places negative m e p) (hc : Canonical m e)
    (hx : Rounds p.negative p.size x) : x.trimmed places = p.text := by
  cases hx with
  | @finite m' e' hc' _ hnear _ =>
    have hcloser : |(p.units places : ℚ) - size m' e' * 10 ^ places| ≤
        |(p.units places : ℚ) - size m e * 10 ^ places| := by
      rw [abs_units_sub hp.places_le, abs_units_sub hp.places_le]
      exact mul_le_mul_of_nonneg_left (hnear _ hc.representable) (by positivity)
    have hagain : RoundedTo places p.negative m' e' p :=
      ⟨hp.places_le, hp.nearest.closer hcloser, p.negative_eq places⟩
    exact hagain.trimmed hc'.lowest
  | infinite habove => exact absurd (hp.size_lt_overflow hc) (not_lt.mpr habove)

/-! ### Short numbers -/

/-- There is a coarsest grid of twos that is finer than units of `1 / d`. -/
theorem exists_two_pow_above {d : ℕ} (hd : 0 < d) (hdlt : d < 2 ^ 53) :
    ∃ b ≤ 53, d < 2 ^ b ∧ 2 ^ b ≤ 2 * d := by
  refine ⟨d.log2 + 1, (Nat.log2_lt hd.ne').mpr hdlt, Nat.lt_log2_self, ?_⟩
  rw [Nat.pow_succ, Nat.mul_comm]
  exact Nat.mul_le_mul_left 2 (Nat.log2_self_le hd.ne')

/-- Every small count of units of `1 / d` has the size of a double nearer to it than half a unit. -/
theorem exists_representable_near {k d : ℕ} (hd : 0 < d) (hdlt : d < 2 ^ 53) (hk : 2 * k < 2 ^ 53) :
    ∃ y, Representable y ∧ d * |y - (k : ℚ) / d| < 1 / 2 := by
  obtain ⟨b, hb, hfine, hcoarse⟩ := exists_two_pow_above hd hdlt
  have hdQ : (0 : ℚ) < d := by exact_mod_cast hd
  have hfineQ : (d : ℚ) < 2 ^ b := by exact_mod_cast hfine
  have hcoarseQ : (2 : ℚ) ^ b ≤ 2 * d := by exact_mod_cast hcoarse
  have hgrid : (k : ℚ) / d / 2 ^ (-(b : ℤ)) = ((k * 2 ^ b : ℕ) : ℚ) / d := by
    rw [zpow_neg, zpow_natCast]
    push_cast
    field_simp
  set j := roundDiv (k * 2 ^ b) d
  have hj : Nearest ((k : ℚ) / d / 2 ^ (-(b : ℤ))) j := hgrid ▸ nearest_roundDiv (k * 2 ^ b) hd
  have hsmall : j ≤ 2 * k := by
    refine hj.ge_of_ge ?_
    rw [hgrid, div_le_iff₀ hdQ]
    push_cast
    calc (k : ℚ) * 2 ^ b ≤ k * (2 * d) := by gcongr
      _ = 2 * k * d := by ring
  refine ⟨size j (-b), representable_of_lt (by omega) ?_ ?_, ?_⟩
  · unfold lowestExponent
    omega
  · unfold highestExponent
    omega
  · have hstep : (d : ℚ) * 2 ^ (-(b : ℤ)) < 1 := by
      rw [zpow_neg, zpow_natCast, ← div_eq_mul_inv, div_lt_one (by positivity)]
      exact hfineQ
    rw [abs_size_sub, ← mul_assoc]
    calc (d : ℚ) * 2 ^ (-(b : ℤ)) * |(j : ℚ) - k / d / 2 ^ (-(b : ℤ))|
        ≤ d * 2 ^ (-(b : ℤ)) * (1 / 2) := mul_le_mul_of_nonneg_left hj.near (by positivity)
      _ < 1 * (1 / 2) := mul_lt_mul_of_pos_right hstep (by norm_num)
      _ = 1 / 2 := one_mul _

section Short

variable (hplaces : p.places.length ≤ places) (hshort : p.whole.length + places ≤ 15)
include hplaces hshort

theorem units_lt_of_short : p.units places < 10 ^ 15 :=
  (p.units_lt hplaces).trans_le (Nat.pow_le_pow_right (by omega) hshort)

theorem size_lt_overflow_of_short : p.size < overflow := by
  have hunits := units_lt_of_short hplaces hshort
  have hlt : p.size < size (2 ^ 53) 0 :=
    calc p.size ≤ p.units places := by
          rw [p.size_eq_div hplaces]
          exact div_le_self (Nat.cast_nonneg _) (one_le_pow₀ (by norm_num))
      _ < (2 ^ 53 : ℕ) := by exact_mod_cast hunits.trans (by norm_num)
      _ = size (2 ^ 53) 0 := by rw [size, zpow_zero, mul_one]
  exact lt_overflow_of_lt_size (by decide) hlt

/-- The units of a short number are the nearest ones for the nearest double. -/
theorem nearest_of_short (hnear : ∀ y, Representable y → |size m e - p.size| ≤ |y - p.size|) :
    Nearest (size m e * 10 ^ places) (p.units places) := by
  have hunits := units_lt_of_short hplaces hshort
  have hunit : 10 ^ places ≤ 10 ^ 15 := Nat.pow_le_pow_right (by omega) (by omega)
  obtain ⟨y, hy, hclose⟩ := exists_representable_near (k := p.units places)
    (d := 10 ^ places) (by positivity) (by omega) (by omega)
  push_cast at hclose
  rw [← p.size_eq_div hplaces] at hclose
  refine .of_lt ?_
  calc |(p.units places : ℚ) - size m e * 10 ^ places|
      = 10 ^ places * |size m e - p.size| := abs_units_sub hplaces _
    _ ≤ 10 ^ places * |y - p.size| := mul_le_mul_of_nonneg_left (hnear y hy) (by positivity)
    _ < 1 / 2 := hclose

/-- A number of at most fifteen digits, counted with all places that may be written, is written
again when it is read. -/
theorem reread_of_short (hx : Rounds p.negative p.size x) : x.trimmed places = p.text := by
  cases hx with
  | @finite m e hc _ hnear _ =>
    have hrounded : RoundedTo places p.negative m e p :=
      ⟨hplaces, nearest_of_short hplaces hshort hnear, p.negative_eq places⟩
    exact hrounded.trimmed hc.lowest
  | infinite habove =>
    exact absurd (size_lt_overflow_of_short hplaces hshort) (not_lt.mpr habove)

end Short

end DesignTokens.Double
