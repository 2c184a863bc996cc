import DesignTokens.Proofs.Decimal.Rounding
import Mathlib.Algebra.Group.Nat.Even
import Mathlib.Algebra.Order.Field.Power
import Mathlib.Tactic.GCongr
import Mathlib.Tactic.NormNum
import Mathlib.Tactic.Ring

/-!
The double that a number becomes. A finite double stands for the number `size m e`, and what
`ofRatio` computes is told through these numbers alone (`Rounds`): no size of a double is nearer, of
two that are equally near the one with the even mantissa is taken, and from half a unit above the
largest size on there is no finite double. Exactly one double is described in this way.

A quotient is rounded on the grid of its own power of two. Doubles of higher powers lie on that
grid, and those of lower powers lie below the quotient and farther from it than the lowest mantissa
of the grid does:

    ──┼─┼─┼─┼─┼───┼───┼───┼───┼───┼───┼───┼───┼───┼──
          finer   2 ^ 52          q            coarser
-/

namespace DesignTokens.Double

/-- The number `m * 2 ^ e`. -/
def size (m : ℕ) (e : ℤ) : ℚ := m * 2 ^ e

/-- The mantissa and the power of two of a finite double. -/
structure Canonical (m : ℕ) (e : ℤ) : Prop where
  lt : m < 2 ^ 53
  lowest : lowestExponent ≤ e
  highest : e ≤ highestExponent
  full : e = lowestExponent ∨ 2 ^ 52 ≤ m

/-- The number is the size of a finite double. -/
def Representable (y : ℚ) : Prop := ∃ m e, Canonical m e ∧ y = size m e

/-- The lowest number that no finite double is near enough to: half a unit above the largest. -/
def overflow : ℚ := size (2 ^ 54 - 1) (highestExponent - 1)

/-- The double with a sign is what a number of size `q` is rounded to. -/
inductive Rounds (negative : Bool) (q : ℚ) : Double → Prop
  | finite {m : ℕ} {e : ℤ} (canonical : Canonical m e) (below : q < overflow)
      (near : ∀ y, Representable y → |size m e - q| ≤ |y - q|)
      (even : ∀ y, Representable y → y ≠ size m e → |y - q| = |size m e - q| → Even m) :
      Rounds negative q (.finite negative m e)
  | infinite (above : overflow ≤ q) : Rounds negative q (.infinite negative)

/-! ### Sizes -/

section Sizes

variable {m n : ℕ} {e e' : ℤ}

theorem two_zpow_pos (e : ℤ) : (0 : ℚ) < 2 ^ e := zpow_pos two_pos e

/-- Powers of two move between the mantissa and the exponent. -/
theorem size_shift (m k : ℕ) (e : ℤ) : size (m * 2 ^ k) e = size m (e + k) := by
  unfold size
  rw [zpow_add₀ two_ne_zero, zpow_natCast]
  push_cast
  ring

theorem size_double (m : ℕ) (e : ℤ) : size (m * 2) e = size m (e + 1) := by
  simpa using size_shift m 1 e

theorem size_succ (m : ℕ) (e : ℤ) : size (m + 1) e = size m e + 2 ^ e := by
  unfold size
  push_cast
  ring

theorem size_le_size_left : size m e ≤ size n e ↔ m ≤ n := by
  unfold size
  rw [mul_le_mul_iff_left₀ (two_zpow_pos e), Nat.cast_le]

theorem size_lt_size_left : size m e < size n e ↔ m < n := by
  unfold size
  rw [mul_lt_mul_iff_left₀ (two_zpow_pos e), Nat.cast_lt]

theorem size_inj_left : size m e = size n e ↔ m = n := by
  rw [le_antisymm_iff, size_le_size_left, size_le_size_left, le_antisymm_iff]

theorem size_le_size_right (m : ℕ) (h : e ≤ e') : size m e ≤ size m e' := by
  unfold size
  gcongr
  exact one_le_two

/-- What has a higher power of two lies on the grid of a lower one. -/
theorem exists_size_eq (m : ℕ) (h : e ≤ e') : ∃ j, size m e' = size j e := by
  refine ⟨m * 2 ^ (e' - e).toNat, ?_⟩
  rw [size_shift]
  congr 1
  omega

/-- What has a lower power of two lies below the full mantissas of a higher one. -/
theorem size_lt_of_finer (hm : m < 2 ^ 53) (h : e < e') : size m e < size (2 ^ 52) e' :=
  calc size m e < size (2 ^ 52 * 2) e := size_lt_size_left.mpr (by omega)
    _ = size (2 ^ 52) (e + 1) := size_double _ e
    _ ≤ size (2 ^ 52) e' := size_le_size_right _ (by omega)

/-- A distance, measured in units of the grid. -/
theorem abs_size_sub (m : ℕ) (e : ℤ) (q : ℚ) :
    |size m e - q| = 2 ^ e * |(m : ℚ) - q / 2 ^ e| := by
  have hpos := two_zpow_pos e
  have hunits : size m e - q = 2 ^ e * ((m : ℚ) - q / 2 ^ e) := by
    unfold size
    field_simp
  rw [hunits, abs_mul, abs_of_pos hpos]

theorem le_div_two_zpow {q : ℚ} : (m : ℚ) ≤ q / 2 ^ e ↔ size m e ≤ q :=
  le_div_iff₀ (two_zpow_pos e)

theorem div_two_zpow_lt {q : ℚ} : q / 2 ^ e < m ↔ q < size m e :=
  div_lt_iff₀ (two_zpow_pos e)

/-- Below the mantissas of doubles no mantissa is too small: it can be doubled until it is full. -/
theorem representable_of_lt (hm : m < 2 ^ 53) (hlow : lowestExponent ≤ e)
    (hhigh : e ≤ highestExponent) : Representable (size m e) := by
  obtain ⟨k, hk⟩ : ∃ k : ℕ, e = lowestExponent + k := ⟨(e - lowestExponent).toNat, by omega⟩
  induction k generalizing m e with
  | zero => exact ⟨m, e, ⟨hm, hlow, hhigh, .inl (by simpa using hk)⟩, rfl⟩
  | succ k ih =>
    by_cases hfull : 2 ^ 52 ≤ m
    · exact ⟨m, e, ⟨hm, hlow, hhigh, .inr hfull⟩, rfl⟩
    · have hdouble : size m e = size (m * 2) (e - 1) := by
        rw [size_double, sub_add_cancel]
      rw [hdouble]
      push_cast at hk
      exact ih (by omega) (by omega) (by omega) (by omega)

theorem Canonical.representable (h : Canonical m e) : Representable (size m e) := ⟨m, e, h, rfl⟩

/-- The size of a finite double lies below the overflow, by more than a half. -/
theorem Canonical.add_half_lt (h : Canonical m e) : size m e + 1 / 2 < overflow := by
  have hlargest : size m e ≤ size (2 ^ 54 - 2) (highestExponent - 1) :=
    calc size m e ≤ size (2 ^ 53 - 1) highestExponent :=
          (size_le_size_left.mpr (Nat.le_sub_one_of_lt h.lt)).trans (size_le_size_right _ h.highest)
      _ = size ((2 ^ 53 - 1) * 2) (highestExponent - 1) := by rw [size_double, sub_add_cancel]
      _ = size (2 ^ 54 - 2) (highestExponent - 1) := by norm_num
  have hgap : overflow = size (2 ^ 54 - 2) (highestExponent - 1) + 2 ^ (highestExponent - 1) := by
    rw [← size_succ, overflow]
    norm_num
  have hunit : (1 : ℚ) ≤ 2 ^ (highestExponent - 1) := one_le_zpow₀ one_le_two (by decide)
  linarith

/-- What lies below the mantissas of a power of two that is not the highest one is no overflow. -/
theorem lt_overflow_of_lt_size {q : ℚ} (he : e < highestExponent) (h : q < size (2 ^ 53) e) :
    q < overflow :=
  calc q < size (2 ^ 53) e := h
    _ ≤ size (2 ^ 53) (highestExponent - 1) := size_le_size_right _ (by omega)
    _ ≤ overflow := size_le_size_left.mpr (by norm_num)

/-- The mantissa and the power of two are determined by the size. -/
theorem Canonical.eq_of_size_eq (h : Canonical m e) (h' : Canonical n e')
    (hsize : size m e = size n e') : m = n ∧ e = e' := by
  rcases lt_trichotomy e e' with hlt | rfl | hgt
  · have hfull := h'.full.resolve_left (by have := h.lowest; omega)
    have hbelow := size_lt_of_finer h.lt hlt
    rw [hsize, size_lt_size_left] at hbelow
    omega
  · exact ⟨size_inj_left.mp hsize, rfl⟩
  · have hfull := h.full.resolve_left (by have := h'.lowest; omega)
    have hbelow := size_lt_of_finer h'.lt hgt
    rw [← hsize, size_lt_size_left] at hbelow
    omega

/-- Between the sizes of two doubles with even mantissas there is the size of a third one. -/
theorem Canonical.exists_between (h : Canonical m e) (h' : Canonical n e') (hm : Even m)
    (hn : Even n) (hlt : size m e < size n e') :
    ∃ y, Representable y ∧ size m e < y ∧ y < size n e' := by
  have hee : e ≤ e' := by
    by_contra hgt
    have hfull := h.full.resolve_left (by have := h'.lowest; omega)
    have hbelow := size_lt_of_finer h'.lt (not_le.mp hgt)
    have hle := size_le_size_left (e := e).mpr hfull
    linarith
  -- the next mantissa, on the finer grid of the two
  have hnext : m + 1 < 2 ^ 53 := by
    have := h.lt
    obtain ⟨a, rfl⟩ := hm
    omega
  refine ⟨size (m + 1) e, representable_of_lt hnext h.lowest h.highest,
    size_lt_size_left.mpr (Nat.lt_succ_self m), ?_⟩
  obtain ⟨j, hj⟩ := exists_size_eq n hee
  rw [hj, size_lt_size_left] at hlt
  rw [hj, size_lt_size_left]
  refine lt_of_le_of_ne hlt fun heq => ?_
  rcases eq_or_lt_of_le hee with rfl | hlt'
  · rw [size_inj_left.mp hj, ← heq] at hn
    exact Nat.not_even_iff_odd.mpr hm.add_one hn
  · have hfull := h'.full.resolve_left (by have := h.lowest; omega)
    have hbelow := size_lt_of_finer hnext hlt'
    rw [heq, ← hj, size_lt_size_left] at hbelow
    omega

end Sizes

/-! ### One double is described -/

/-- Two doubles that are nearest to the same number have the same size. -/
theorem size_le_of_near {q : ℚ} {m n : ℕ} {e e' : ℤ} (h : Canonical m e)
    (h' : Canonical n e') (hnear : ∀ y, Representable y → |size m e - q| ≤ |y - q|)
    (heven : ∀ y, Representable y → y ≠ size m e → |y - q| = |size m e - q| → Even m)
    (hnear' : ∀ y, Representable y → |size n e' - q| ≤ |y - q|)
    (heven' : ∀ y, Representable y → y ≠ size n e' → |y - q| = |size n e' - q| → Even n) :
    size n e' ≤ size m e := by
  by_contra hlt
  rw [not_le] at hlt
  have htie : |size m e - q| = |size n e' - q| :=
    le_antisymm (hnear _ h'.representable) (hnear' _ h.representable)
  have hm := heven _ h'.representable hlt.ne' htie.symm
  have hn := heven' _ h.representable hlt.ne htie
  obtain ⟨y, hy, hlow, hhigh⟩ := h.exists_between h' hm hn hlt
  -- what lies between two numbers that are equally far from `q` is nearer to it
  have hcloser : |y - q| < |size m e - q| := by
    rcases abs_eq_abs.mp htie with hsame | hopposite
    · linarith
    · rw [abs_of_neg (a := size m e - q) (by linarith), abs_lt]
      constructor <;> linarith
  exact absurd (hnear y hy) (not_le.mpr hcloser)

/-- A number is rounded to one double. -/
theorem Rounds.unique {negative : Bool} {q : ℚ} {x x' : Double} (h : Rounds negative q x)
    (h' : Rounds negative q x') : x = x' := by
  cases h with
  | finite hc hbelow hnear heven =>
    cases h' with
    | finite hc' _ hnear' heven' =>
      have hle := size_le_of_near hc hc' hnear heven hnear' heven'
      have hge := size_le_of_near hc' hc hnear' heven' hnear heven
      obtain ⟨rfl, rfl⟩ := hc.eq_of_size_eq hc' (le_antisymm hge hle)
      rfl
    | infinite habove => exact absurd hbelow (not_lt.mpr habove)
  | infinite habove =>
    cases h' with
    | finite _ hbelow => exact absurd hbelow (not_lt.mpr habove)
    | infinite => rfl

/-! ### The power of two of a quotient -/

section Quotient

variable {num den : ℕ}

theorem two_zpow_eq_div (e : ℤ) : (2 : ℚ) ^ e = 2 ^ e.toNat / 2 ^ (-e).toNat := by
  rw [← zpow_natCast, ← zpow_natCast, ← zpow_sub₀ two_ne_zero]
  congr 1
  omega

theorem reaches_iff (hden : 0 < den) (k : ℤ) : reaches num den k ↔ (2 : ℚ) ^ k ≤ num / den := by
  have hdenQ : (0 : ℚ) < den := by exact_mod_cast hden
  rw [reaches, decide_eq_true_iff, two_zpow_eq_div, div_le_div_iff₀ (by positivity) hdenQ,
    mul_comm ((2 : ℚ) ^ k.toNat)]
  exact_mod_cast Iff.rfl

/-- A quotient lies between two neighbouring powers of two. -/
theorem binaryOrder_spec (hnum : 0 < num) (hden : 0 < den) :
    (2 : ℚ) ^ binaryOrder num den ≤ num / den ∧
      (num : ℚ) / den < 2 ^ (binaryOrder num den + 1) := by
  have hnumLow : (2 : ℚ) ^ num.log2 ≤ num := by exact_mod_cast Nat.log2_self_le hnum.ne'
  have hnumHigh : (num : ℚ) < 2 ^ (num.log2 + 1) := by exact_mod_cast Nat.lt_log2_self
  have hdenLow : (2 : ℚ) ^ den.log2 ≤ den := by exact_mod_cast Nat.log2_self_le hden.ne'
  have hdenHigh : (den : ℚ) < 2 ^ (den.log2 + 1) := by exact_mod_cast Nat.lt_log2_self
  have hdenQ : (0 : ℚ) < den := by exact_mod_cast hden
  set k : ℤ := (num.log2 : ℤ) - den.log2
  have hlow : (2 : ℚ) ^ (k - 1) ≤ num / den := by
    rw [le_div_iff₀ hdenQ]
    calc (2 : ℚ) ^ (k - 1) * den ≤ 2 ^ (k - 1) * 2 ^ (den.log2 + 1) := by gcongr
      _ = 2 ^ num.log2 := by
        rw [← zpow_natCast, ← zpow_natCast, ← zpow_add₀ two_ne_zero]
        congr 1
        push_cast
        omega
      _ ≤ num := hnumLow
  have hhigh : (num : ℚ) / den < 2 ^ (k + 1) := by
    rw [div_lt_iff₀ hdenQ]
    calc (num : ℚ) < 2 ^ (num.log2 + 1) := hnumHigh
      _ = 2 ^ (k + 1) * 2 ^ den.log2 := by
        rw [← zpow_natCast, ← zpow_natCast, ← zpow_add₀ two_ne_zero]
        congr 1
        push_cast
        omega
      _ ≤ 2 ^ (k + 1) * den := by gcongr
  unfold binaryOrder
  simp only
  split_ifs with hreach
  · exact ⟨(reaches_iff hden k).mp hreach, hhigh⟩
  · rw [reaches_iff hden, not_le] at hreach
    exact ⟨hlow, by rwa [sub_add_cancel]⟩

end Quotient

/-! ### Rounding on the grid of a power of two -/

/-- A power of two whose mantissas of fifty-three bits take in the number `q`. -/
structure Fits (q : ℚ) (e : ℤ) : Prop where
  lowest : lowestExponent ≤ e
  full : e = lowestExponent ∨ size (2 ^ 52) e ≤ q
  lt : q < size (2 ^ 53) e

/-- The power of two that a quotient is rounded at. -/
theorem fits_binaryOrder {num den : ℕ} (hnum : 0 < num) (hden : 0 < den) :
    Fits ((num : ℚ) / den) (max lowestExponent (binaryOrder num den - 52)) := by
  obtain ⟨hlow, hhigh⟩ := binaryOrder_spec hnum hden
  set k := binaryOrder num den
  have hsize : ∀ (b : ℕ) (e : ℤ), size (2 ^ b) e = 2 ^ (e + b) := by
    intro b e
    unfold size
    rw [zpow_add₀ two_ne_zero, zpow_natCast, mul_comm]
    push_cast
    rfl
  refine ⟨le_max_left _ _, ?_, ?_⟩
  · rcases le_total (k - 52) lowestExponent with hle | hge
    · exact .inl (max_eq_left hle)
    · right
      rw [max_eq_right hge, hsize]
      convert hlow using 2
      push_cast
      ring
  · refine hhigh.trans_le ?_
    rw [hsize]
    refine zpow_le_zpow_right₀ one_le_two ?_
    push_cast
    have := le_max_right lowestExponent (k - 52)
    omega

section Grid

variable {q : ℚ} {e : ℤ} {k : ℕ}

/-- The nearest mantissa of the grid gives the nearest of all sizes. -/
theorem Fits.near (h : Fits q e) (hk : Nearest (q / 2 ^ e) k) {y : ℚ} (hy : Representable y) :
    |size k e - q| ≤ |y - q| ∧ (y ≠ size k e → |y - q| = |size k e - q| → Even k) := by
  obtain ⟨m, e', hcanonical, rfl⟩ := hy
  rcases le_or_gt e e' with hle | hlt
  · -- on the grid
    obtain ⟨j, hj⟩ := exists_size_eq m hle
    rw [hj, abs_size_sub, abs_size_sub]
    refine ⟨mul_le_mul_of_nonneg_left (hk.le_abs_sub j) (two_zpow_pos e).le, fun hne htie => ?_⟩
    have hjk : j ≠ k := fun heq => hne (congrArg (size · e) heq)
    exact hk.even_of_tie hjk (mul_left_cancel₀ (two_zpow_pos e).ne' htie)
  · -- below all full mantissas of the grid
    have hfull := h.full.resolve_left (by have := hcanonical.lowest; omega)
    have hbelow := size_lt_of_finer hcanonical.lt hlt
    have hgrid : |size k e - q| ≤ |size (2 ^ 52) e - q| := by
      rw [abs_size_sub, abs_size_sub]
      exact mul_le_mul_of_nonneg_left (hk.le_abs_sub _) (two_zpow_pos e).le
    rw [abs_of_nonpos (a := size (2 ^ 52) e - q) (by linarith)] at hgrid
    rw [abs_of_neg (a := size m e' - q) (by linarith)]
    exact ⟨by linarith, fun _ htie => absurd htie (by linarith)⟩

theorem Fits.le_of_nearest (h : Fits q e) (hk : Nearest (q / 2 ^ e) k) : k ≤ 2 ^ 53 :=
  hk.ge_of_ge (div_two_zpow_lt.mpr h.lt).le

theorem Fits.full_of_nearest (h : Fits q e) (hk : Nearest (q / 2 ^ e) k) :
    e = lowestExponent ∨ 2 ^ 52 ≤ k :=
  h.full.imp_right fun hfull => hk.le_of_le (le_div_two_zpow.mpr hfull)

/-- Below the overflow there is a power of two that doubles have, and at the highest one the
mantissa does not become too large. -/
theorem Fits.below_overflow_iff (h : Fits q e) (hk : Nearest (q / 2 ^ e) k) :
    q < overflow ↔ e < highestExponent ∨ (e = highestExponent ∧ k < 2 ^ 53) := by
  have hhalf : overflow = (2 ^ 53 - 1 / 2) * 2 ^ highestExponent := by
    have hpower : (2 : ℚ) ^ highestExponent = 2 ^ (highestExponent - 1) * 2 := by
      rw [← zpow_add_one₀ two_ne_zero, sub_add_cancel]
    rw [hpower, overflow, size]
    push_cast
    ring
  rcases lt_trichotomy e highestExponent with hlt | rfl | hgt
  · -- a lower power of two
    exact iff_of_true (lt_overflow_of_lt_size hlt h.lt) (.inl hlt)
  · -- the highest one: the overflow is the tie in front of `2 ^ 53`
    have htie : k < 2 ^ 53 ↔ q < overflow := by
      rw [hk.lt_iff_of_even (by decide), hhalf, ← div_lt_iff₀ (two_zpow_pos _)]
      push_cast
      rfl
    rw [htie]
    simp
  · -- a higher one
    refine iff_of_false (not_lt.mpr ?_) (by omega)
    have hfull := h.full.resolve_left (by
      have : lowestExponent < highestExponent := by decide
      omega)
    calc overflow ≤ size (2 ^ 52 * 2 ^ 2) (highestExponent - 1) :=
          size_le_size_left.mpr (by norm_num)
      _ = size (2 ^ 52) (highestExponent - 1 + 2) := size_shift (2 ^ 52) 2 _
      _ ≤ size (2 ^ 52) e := size_le_size_right _ (by omega)
      _ ≤ q := hfull

/-- The nearest mantissa of the grid, moved up if it has become too large, makes the double. -/
theorem Fits.rounds (h : Fits q e) (hk : Nearest (q / 2 ^ e) k) (negative : Bool) :
    Rounds negative q (ofMantissa negative k e) := by
  have hle := h.le_of_nearest hk
  have hfull := h.full_of_nearest hk
  have hbelow := h.below_overflow_iff hk
  unfold ofMantissa
  by_cases htop : k = Nat.pow 2 53
  · -- the mantissa is moved up
    have htop' : k = 2 ^ 53 := htop
    have hsize : size (2 ^ 52) (e + 1) = size k e := by
      rw [← size_double, htop']
      norm_num
    simp only [if_pos htop]
    split_ifs with hhigh
    · exact .infinite (not_lt.mp fun hq => by have := hbelow.mp hq; omega)
    · refine .finite ⟨by decide, by have := h.lowest; omega, by omega, .inr (le_refl _)⟩
        (hbelow.mpr (.inl (by omega))) (fun y hy => ?_) fun _ _ _ _ => by decide
      have := (h.near hk hy).1
      rwa [← hsize] at this
  · simp only [if_neg htop]
    have hlt : k < 2 ^ 53 := lt_of_le_of_ne hle htop
    split_ifs with hhigh
    · exact .infinite (not_lt.mp fun hq => by have := hbelow.mp hq; omega)
    · exact .finite ⟨hlt, h.lowest, by omega, hfull⟩ (hbelow.mpr (by omega))
        (fun y hy => (h.near hk hy).1) fun y hy => (h.near hk hy).2

end Grid

/-- A quotient of naturals becomes the nearest double. -/
theorem rounds_ofRatio (negative : Bool) (num : ℕ) {den : ℕ} (hden : 0 < den) :
    Rounds negative ((num : ℚ) / den) (ofRatio negative num den) := by
  unfold ofRatio
  split_ifs with hzero
  · -- zero is the size of a double
    have hsize : size 0 lowestExponent = 0 := by simp [size]
    have hoverflow : (0 : ℚ) < overflow := by
      unfold overflow size
      positivity
    rw [hzero, Nat.cast_zero, zero_div]
    refine .finite ⟨by decide, le_refl _, by decide, .inl rfl⟩ hoverflow (fun y _ => ?_)
      fun _ _ _ _ => by decide
    rw [hsize, sub_self, abs_zero]
    exact abs_nonneg _
  · have hfits := fits_binaryOrder (Nat.pos_of_ne_zero hzero) hden
    set e := max lowestExponent (binaryOrder num den - 52)
    refine hfits.rounds ?_ negative
    have hscaled : (num : ℚ) / den / 2 ^ e =
        ((num * 2 ^ (-e).toNat : ℕ) : ℚ) / (den * 2 ^ e.toNat : ℕ) := by
      rw [two_zpow_eq_div]
      push_cast
      field_simp
    rw [hscaled]
    exact nearest_roundDiv _ (by positivity)

/-- A natural above zero is too near to one to be rounded to zero. -/
theorem isZero_ofRatio_one (negative : Bool) (n : ℕ) :
    (ofRatio negative n 1).isZero = true ↔ n = 0 := by
  constructor
  · intro hzero
    by_contra hn
    have hrounds := rounds_ofRatio negative n one_pos
    rw [Nat.cast_one, div_one] at hrounds
    generalize ofRatio negative n 1 = x at hzero hrounds
    cases hrounds with
    | finite canonical below near even =>
      rw [isZero, beq_iff_eq] at hzero
      have hone : Representable 1 := by
        have h := representable_of_lt (m := 1) (e := 0) (by decide) (by decide) (by decide)
        rwa [size, Nat.cast_one, zpow_zero, mul_one] at h
      have hpos : (1 : ℚ) ≤ n := by exact_mod_cast Nat.one_le_iff_ne_zero.mpr hn
      have hnear := near 1 hone
      rw [hzero, size, Nat.cast_zero, zero_mul, zero_sub, abs_neg, abs_of_nonneg (by linarith),
        abs_of_nonpos (by linarith)] at hnear
      linarith
    | infinite above => cases hzero
  · rintro rfl
    rfl

theorem isZero_ofInt : ∀ i : ℤ, (ofInt i).isZero = true ↔ i = 0
  | .ofNat n => by
    rw [ofInt, isZero_ofRatio_one]
    exact Int.ofNat_inj.symm
  | .negSucc n => by
    rw [ofInt, isZero_ofRatio_one]
    exact iff_of_false (Nat.succ_ne_zero n) (Int.negSucc_ne_zero n)

end DesignTokens.Double
