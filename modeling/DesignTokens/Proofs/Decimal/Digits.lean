import DesignTokens.Decimal.Digits
import Mathlib.Algebra.Ring.Nat
import Mathlib.Data.List.Induction
import Mathlib.Tactic.Common

/-!
Writing a natural and reading its digits. A natural is written as a non-empty row of digits that
starts with a zero only if the natural is zero, and the value of that row is the natural again. Rows
of digits of one length are told apart by their values, so a row without zeros that could be left
out in front (`IsWhole`) is the way its value is written.
-/

namespace DesignTokens

theorem natText_ne_nil (n : Nat) : natText n ≠ [] := Nat.toDigits_ne_nil

theorem isDigit_of_mem_natText {n : Nat} {c : Char} (h : c ∈ natText n) : isDigit c := by
  have hdigit : c.isDigit := Nat.isDigit_of_mem_toDigits (by omega) (by omega) h
  simpa [isDigit, Char.isDigit, Char.le_def] using hdigit

theorem natOf_natText (n : Nat) : natOf (natText n) = n := Nat.ofDigitChars_ten_toDigits

/-- Only zero is written with a zero in front. -/
theorem eq_zero_of_head?_natText {n : Nat} : (natText n).head? = some '0' → n = 0 := by
  induction n using Nat.strongRecOn with
  | ind n ih =>
    intro h
    rw [natText, Nat.toDigits_eq_if (by omega)] at h
    split at h
    · next hlt =>
      -- a single digit
      have hdigit : ∀ d < 10, Nat.digitChar d = '0' → d = 0 := by decide
      exact hdigit n hlt (by simpa using h)
    · next hge =>
      -- the first digit is that of the natural without its last digit
      obtain ⟨d, ds, hds⟩ := List.exists_cons_of_ne_nil (natText_ne_nil (n / 10))
      have hhead : (natText (n / 10)).head? = some '0' := by
        rw [natText] at hds
        rw [hds] at h
        rw [natText, hds]
        simpa using h
      have hzero : n / 10 = 0 := ih (n / 10) (by omega) hhead
      omega

/-! ### Rows of digits -/

section Rows

variable {a b t : Text}

theorem natOf_append (a b : Text) : natOf (a ++ b) = natOf a * 10 ^ b.length + natOf b := by
  have happend : natOf (a ++ b) = Nat.ofDigitChars 10 b (natOf a) := Nat.ofDigitChars_append 0
  have hsplit : Nat.ofDigitChars 10 b (natOf a) = 10 ^ b.length * natOf a + natOf b :=
    Nat.ofDigitChars_eq_ofDigitChars_zero
  rw [happend, hsplit, Nat.mul_comm]

theorem natOf_concat (t : Text) (c : Char) : natOf (t ++ [c]) = natOf t * 10 + digitValue c := by
  simpa [natOf] using natOf_append t [c]

theorem isDigit_of_mem_zeros {n : Nat} {c : Char} (h : c ∈ List.replicate n '0') : isDigit c := by
  rw [List.eq_of_mem_replicate h]
  decide

theorem natOf_zeros (n : Nat) : natOf (List.replicate n '0') = 0 := by
  have hzeros : natOf (List.replicate n '0') = 10 ^ n * 0 := Nat.ofDigitChars_replicate_zero
  simpa using hzeros

/-- A digit is determined by its value, which is below ten. -/
theorem digitValue_lt {c : Char} (h : isDigit c) : digitValue c < 10 := by
  simp only [isDigit, Bool.and_eq_true, decide_eq_true_eq, Char.le_def, UInt32.le_iff_toNat_le] at h
  have hlow : 48 ≤ c.toNat := h.1
  have hhigh : c.toNat ≤ 57 := h.2
  show c.toNat - 48 < 10
  omega

theorem digitValue_inj {c d : Char} (hc : isDigit c) (hd : isDigit d)
    (h : digitValue c = digitValue d) : c = d := by
  simp only [isDigit, Bool.and_eq_true, decide_eq_true_eq, Char.le_def,
    UInt32.le_iff_toNat_le] at hc hd
  have hclow : 48 ≤ c.toNat := hc.1
  have hdlow : 48 ≤ d.toNat := hd.1
  have hvalue : c.toNat - 48 = d.toNat - 48 := h
  exact Char.toNat_inj.mp (by omega)

theorem natOf_lt (h : ∀ c ∈ t, isDigit c) : natOf t < 10 ^ t.length := by
  induction t using List.reverseRecOn with
  | nil => simp [natOf]
  | append_singleton t c ih =>
    obtain ⟨ht, hc⟩ := List.forall_mem_append.mp h
    have hlast := digitValue_lt (hc c (List.mem_singleton_self c))
    have hfront := ih ht
    rw [natOf_concat, List.length_append, List.length_singleton, Nat.pow_succ]
    omega

/-- Rows of one length with the same value are the same, since their last digits are. -/
theorem natOf_inj (ha : ∀ c ∈ a, isDigit c) (hb : ∀ c ∈ b, isDigit c)
    (hlength : a.length = b.length) (h : natOf a = natOf b) : a = b := by
  induction a using List.reverseRecOn generalizing b with
  | nil => exact (List.length_eq_zero_iff.mp hlength.symm).symm
  | append_singleton a c ih =>
    obtain ⟨b, d, rfl⟩ : ∃ b' d, b = b' ++ [d] := by
      rcases List.eq_nil_or_concat b with rfl | ⟨b', d, rfl⟩
      · simp at hlength
      · exact ⟨b', d, List.concat_eq_append⟩
    obtain ⟨ha, hc⟩ := List.forall_mem_append.mp ha
    obtain ⟨hb, hd⟩ := List.forall_mem_append.mp hb
    have hc := hc c (List.mem_singleton_self c)
    have hd := hd d (List.mem_singleton_self d)
    rw [natOf_concat, natOf_concat] at h
    have hclt := digitValue_lt hc
    have hdlt := digitValue_lt hd
    have hlast : c = d := digitValue_inj hc hd (by omega)
    have hfront : a = b := ih ha hb (by simpa using hlength) (by omega)
    rw [hlast, hfront]

/-- A row of the value zero consists of zeros. -/
theorem eq_zero_of_natOf_eq_zero (ht : ∀ c ∈ t, isDigit c) (h : natOf t = 0) :
    ∀ c ∈ t, c = '0' := by
  have hrow : t = List.replicate t.length '0' :=
    natOf_inj ht (fun _ => isDigit_of_mem_zeros) (by simp) (by rw [h, natOf_zeros])
  intro c hc
  rw [hrow] at hc
  exact List.eq_of_mem_replicate hc

/-- Every natural that is small enough is the value of a row of a given length. -/
theorem exists_row {n k : Nat} (h : n < 10 ^ k) :
    ∃ g : Text, (∀ c ∈ g, isDigit c) ∧ g.length = k ∧ natOf g = n := by
  induction k generalizing n with
  | zero => exact ⟨[], by simp, rfl, by simp [natOf]; omega⟩
  | succ k ih =>
    obtain ⟨g, hdigits, hlength, hvalue⟩ := ih (n := n / 10) (by rw [Nat.pow_succ] at h; omega)
    refine ⟨g ++ natText (n % 10), ?_, ?_, ?_⟩
    · refine List.forall_mem_append.mpr ⟨hdigits, fun c hc => isDigit_of_mem_natText hc⟩
    · simp [natText, Nat.toDigits_of_lt_base (Nat.mod_lt n (by omega : 10 > 0)), hlength]
    · rw [natOf_append, natOf_natText, hvalue]
      simp only [natText, Nat.toDigits_of_lt_base (Nat.mod_lt n (by omega : 10 > 0)),
        List.length_singleton]
      omega

/-- The row is the whole part of a number: it is not empty, and it starts with a zero only if that
is all. -/
structure IsWhole (t : Text) : Prop where
  digits : ∀ c ∈ t, isDigit c
  ne_nil : t ≠ []
  zero : t.head? = some '0' → t = ['0']

theorem isWhole_natText (n : Nat) : IsWhole (natText n) where
  digits _ := isDigit_of_mem_natText
  ne_nil := natText_ne_nil n
  zero h := by rw [eq_zero_of_head?_natText h]; rfl

/-- With zeros in front, a natural is written as any row of its value. -/
theorem zeros_append_natText (ht : ∀ c ∈ t, isDigit c)
    (hlength : (natText (natOf t)).length ≤ t.length) :
    List.replicate (t.length - (natText (natOf t)).length) '0' ++ natText (natOf t) = t := by
  refine natOf_inj ?_ ht (by simp; omega) (by rw [natOf_append, natOf_zeros, natOf_natText]; omega)
  exact List.forall_mem_append.mpr
    ⟨fun _ => isDigit_of_mem_zeros, fun _ => isDigit_of_mem_natText⟩

theorem length_natText_natOf_le (ht : ∀ c ∈ t, isDigit c) (hne : t ≠ []) :
    (natText (natOf t)).length ≤ t.length :=
  (Nat.length_toDigits_le_iff (by omega) (List.length_pos_iff.mpr hne)).mpr (natOf_lt ht)

/-- A whole part is how its value is written. -/
theorem IsWhole.natText_natOf (h : IsWhole t) : natText (natOf t) = t := by
  have hle := length_natText_natOf_le h.digits h.ne_nil
  have hrow := zeros_append_natText h.digits hle
  rcases Nat.eq_zero_or_pos (t.length - (natText (natOf t)).length) with hnone | hsome
  · rwa [hnone, List.replicate_zero, List.nil_append] at hrow
  · -- zeros in front are all there is
    obtain ⟨k, hk⟩ := Nat.exists_eq_succ_of_ne_zero (Nat.pos_iff_ne_zero.mp hsome)
    have hhead : t.head? = some '0' := by
      rw [← hrow, hk]
      rfl
    rw [h.zero hhead]
    rfl

end Rows

end DesignTokens
