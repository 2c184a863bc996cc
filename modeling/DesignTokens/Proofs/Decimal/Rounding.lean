import DesignTokens.Decimal.Double
import Mathlib.Algebra.Group.Nat.Even
import Mathlib.Algebra.Order.Ring.Abs
import Mathlib.Algebra.Order.Field.Rat
import Mathlib.Data.Nat.Cast.Order.Ring
import Mathlib.Tactic.FieldSimp
import Mathlib.Tactic.Linarith
import Mathlib.Tactic.Positivity

/-!
Rounding to naturals. What `roundDiv` computes is told without it: the natural that is nearest to
the exact quotient, and of two that are equally near the even one (`Nearest`). There is never more
than one such natural, so a natural that is shown to be nearest is the one that is computed. Moving
a quotient towards the natural that it is rounded to does not change that natural
(`Nearest.closer`): all that is said later about rounding twice rests on this.
-/

namespace DesignTokens

/-- `n` is the natural nearest to `q`, of two that are equally near the even one. -/
structure Nearest (q : ℚ) (n : ℕ) : Prop where
  near : |(n : ℚ) - q| ≤ 1 / 2
  even : |(n : ℚ) - q| = 1 / 2 → Even n

namespace Nearest

variable {q : ℚ} {n : ℕ}

theorem of_lt (h : |(n : ℚ) - q| < 1 / 2) : Nearest q n :=
  ⟨h.le, fun htie => absurd htie h.ne⟩

/-- Any other natural is at least half a unit away. -/
theorem half_le (h : Nearest q n) {j : ℕ} (hj : j ≠ n) : 1 / 2 ≤ |(j : ℚ) - q| := by
  have hnear := abs_le.mp h.near
  rcases Nat.lt_or_gt_of_ne hj with hlt | hgt
  · have hstep : (j : ℚ) + 1 ≤ n := by exact_mod_cast hlt
    exact le_abs.mpr (.inr (by linarith))
  · have hstep : (n : ℚ) + 1 ≤ j := by exact_mod_cast hgt
    exact le_abs.mpr (.inl (by linarith))

/-- No natural is nearer. -/
theorem le_abs_sub (h : Nearest q n) (j : ℕ) : |(n : ℚ) - q| ≤ |(j : ℚ) - q| := by
  rcases eq_or_ne j n with rfl | hj
  · exact le_refl _
  · exact h.near.trans (h.half_le hj)

/-- If another natural is as near, the one that is chosen is even. -/
theorem even_of_tie (h : Nearest q n) {j : ℕ} (hj : j ≠ n) (htie : |(j : ℚ) - q| = |(n : ℚ) - q|) :
    Even n :=
  h.even (le_antisymm h.near (htie ▸ h.half_le hj))

/-- One natural is nearest. -/
theorem unique (h : Nearest q n) {n' : ℕ} (h' : Nearest q n') : n = n' := by
  by_contra hne
  have htie : |(n : ℚ) - q| = |(n' : ℚ) - q| :=
    le_antisymm (h.le_abs_sub n') (h'.le_abs_sub n)
  obtain ⟨a, ha⟩ := h.even_of_tie (Ne.symm hne) htie.symm
  obtain ⟨b, hb⟩ := h'.even_of_tie hne htie
  -- both are even, so there is a natural between them, and that one is nearer than half a unit
  have hn := abs_le.mp h.near
  have hn' := abs_le.mp h'.near
  have hup : (n : ℚ) < n' + 2 := by linarith
  have hdown : (n' : ℚ) < n + 2 := by linarith
  have hup : n < n' + 2 := by exact_mod_cast hup
  have hdown : n' < n + 2 := by exact_mod_cast hdown
  omega

/-- A quotient that is nearer to the natural is rounded to it as well. -/
theorem closer (h : Nearest q n) {q' : ℚ} (hq' : |(n : ℚ) - q'| ≤ |(n : ℚ) - q|) : Nearest q' n :=
  ⟨hq'.trans h.near, fun htie => h.even (le_antisymm h.near (htie ▸ hq'))⟩

/-- A natural below a quotient is below what it is rounded to. -/
theorem le_of_le (h : Nearest q n) {j : ℕ} (hj : (j : ℚ) ≤ q) : j ≤ n := by
  by_contra hlt
  have hstep : (n : ℚ) + 1 ≤ j := by exact_mod_cast Nat.lt_of_not_le hlt
  linarith [(abs_le.mp h.near).1]

/-- A natural above a quotient is above what it is rounded to. -/
theorem ge_of_ge (h : Nearest q n) {j : ℕ} (hj : q ≤ j) : n ≤ j := by
  by_contra hlt
  have hstep : (j : ℚ) + 1 ≤ n := by exact_mod_cast Nat.lt_of_not_le hlt
  linarith [(abs_le.mp h.near).2]

/-- A natural is nearest to itself. -/
theorem natCast (n : ℕ) : Nearest (n : ℚ) n := of_lt (by simp)

/-- There is no tie at an odd natural. -/
theorem lt_of_odd (h : Nearest q n) (hodd : ¬Even n) : |(n : ℚ) - q| < 1 / 2 :=
  lt_of_le_of_ne h.near fun htie => hodd (h.even htie)

/-- The tie in front of an even natural is rounded up to it, and what is below the tie is not. -/
theorem lt_iff_of_even (h : Nearest q n) {j : ℕ} (hj : Even j) : n < j ↔ q < j - 1 / 2 := by
  constructor
  · intro hlt
    rcases Nat.lt_or_eq_of_le (Nat.succ_le_of_lt hlt) with hless | rfl
    · have hstep : (n : ℚ) + 1 + 1 ≤ j := by exact_mod_cast hless
      linarith [(abs_le.mp h.near).1]
    · -- the natural below an even one is odd
      have hodd : ¬Even n := fun heven => Nat.not_even_iff_odd.mpr heven.add_one hj
      have hnear := (abs_lt.mp (h.lt_of_odd hodd)).1
      push_cast
      linarith
  · intro hq
    have hnear := (abs_le.mp h.near).2
    have hlt : (n : ℚ) < j := by linarith
    exact_mod_cast hlt

end Nearest

/-- A quotient is its whole part and a remainder. -/
theorem div_eq_whole_add_rest (num : ℕ) {den : ℕ} (hden : 0 < den) :
    (num : ℚ) / den = (num / den : ℕ) + ((num % den : ℕ) : ℚ) / den := by
  have hdenQ : (den : ℚ) ≠ 0 := by exact_mod_cast hden.ne'
  have hnum : (num : ℚ) = den * (num / den : ℕ) + (num % den : ℕ) := by
    exact_mod_cast (Nat.div_add_mod num den).symm
  rw [hnum]
  field_simp

/-- A quotient of naturals is rounded to the nearest natural. -/
theorem nearest_roundDiv (num : ℕ) {den : ℕ} (hden : 0 < den) :
    Nearest ((num : ℚ) / den) (roundDiv num den) := by
  have hlt : num % den < den := Nat.mod_lt num hden
  have hdenQ : (0 : ℚ) < den := by exact_mod_cast hden
  have hparts := div_eq_whole_add_rest num hden
  have hrest : 0 ≤ ((num % den : ℕ) : ℚ) / den := by positivity
  unfold roundDiv
  simp only
  split_ifs with hbelow habove
  · -- less than half a unit is left out
    have hhalf : ((num % den : ℕ) : ℚ) / den < 1 / 2 := by
      rw [div_lt_div_iff₀ hdenQ two_pos]
      have : ((2 * (num % den) : ℕ) : ℚ) < den := by exact_mod_cast hbelow
      push_cast at this
      linarith
    refine .of_lt ?_
    rw [hparts, abs_lt]
    constructor <;> linarith
  · -- more than half a unit is filled up
    have hhalf : 1 / 2 < ((num % den : ℕ) : ℚ) / den := by
      rw [div_lt_div_iff₀ two_pos hdenQ]
      have : ((den : ℕ) : ℚ) < (2 * (num % den) : ℕ) := by exact_mod_cast habove
      push_cast at this
      linarith
    have hone : ((num % den : ℕ) : ℚ) / den < 1 := by
      rw [div_lt_one hdenQ]
      exact_mod_cast hlt
    refine .of_lt ?_
    rw [hparts, abs_lt]
    push_cast
    constructor <;> linarith
  · -- half a unit goes to the even natural
    have hhalf : ((num % den : ℕ) : ℚ) / den = 1 / 2 := by
      rw [div_eq_div_iff hdenQ.ne' two_ne_zero]
      have : ((2 * (num % den) : ℕ) : ℚ) = den := by exact_mod_cast (by omega)
      push_cast at this
      linarith
    have heven : Even (num / den + num / den % 2) := by
      rw [Nat.even_iff]
      omega
    refine ⟨?_, fun _ => heven⟩
    have hcarry : num / den % 2 = 0 ∨ num / den % 2 = 1 := Nat.mod_two_eq_zero_or_one _
    rcases hcarry with hcarry | hcarry <;> rw [hcarry, hparts, hhalf, abs_le] <;> push_cast <;>
      constructor <;> linarith

end DesignTokens
