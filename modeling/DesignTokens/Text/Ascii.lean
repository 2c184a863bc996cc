import DesignTokens.Text.Basic

/-!
The seven-bit part of text: comparing without regard to the case of the letters `a` to `z`, and
decimal digits. Letters outside that range are compared as they stand.
-/

namespace DesignTokens

/-- The digits `0` to `9`, and no other script's. -/
def isDigit (c : Char) : Bool := '0' ≤ c && c ≤ '9'

/-- The value of a digit. -/
def digitValue (c : Char) : Nat := c.toNat - '0'.toNat

/-- The value of a hexadecimal digit of either case. -/
def hexValue? (c : Char) : Option Nat :=
  if isDigit c then some (digitValue c)
  else if 'a' ≤ c && c ≤ 'f' then some (c.toNat - 'a'.toNat + 10)
  else if 'A' ≤ c && c ≤ 'F' then some (c.toNat - 'A'.toNat + 10)
  else none

/-- The digit, or the letter from `a` on, of a value below sixteen. -/
def hexDigit (n : Nat) : Char :=
  if n < 10 then Char.ofNat ('0'.toNat + n) else Char.ofNat ('a'.toNat + (n - 10))

namespace Text

/-- The letters `A` to `Z` made small and all else kept. -/
def foldCase (t : Text) : Text := t.map Char.toLower

/-- Whether two texts differ at most in the case of the letters `a` to `z`. -/
def sameName (a b : Text) : Bool := foldCase a == foldCase b

theorem sameName_iff (a b : Text) : sameName a b = true ↔ foldCase a = foldCase b := by
  simp [sameName]

@[simp] theorem sameName_refl (a : Text) : sameName a a = true := by simp [sameName]

theorem sameName_symm {a b : Text} (h : sameName a b = true) : sameName b a = true := by
  simp_all [sameName]

theorem sameName_comm (a b : Text) : sameName a b = sameName b a := by
  rw [Bool.eq_iff_iff, sameName_iff, sameName_iff, eq_comm]

/-- Names that are alike compare alike with any third name. -/
theorem sameName_congr {a b : Text} (h : sameName a b = true) (c : Text) :
    sameName a c = sameName b c := by
  rw [Bool.eq_iff_iff, sameName_iff, sameName_iff, (sameName_iff a b).mp h]

end Text

end DesignTokens
