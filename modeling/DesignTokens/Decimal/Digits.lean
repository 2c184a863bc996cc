import DesignTokens.Text.Ascii

/-!
Natural numbers in decimal: writing one, the value of a row of digits, and reading one that has to
stay below a bound. Reading stops at the first character that is no digit or that takes the value
past the bound, so the earlier of two faults is the one reported.
-/

namespace DesignTokens

/-- The decimal digits of a number, without leading zeros. -/
def natText (n : Nat) : Text := Nat.toDigits 10 n

/-- The decimal digits of a number behind a minus sign if it is negative. -/
def intText : Int → Text
  | .ofNat n => natText n
  | .negSucc n => '-' :: natText (n + 1)

/-- The value of a row of digits. -/
def natOf (digits : Text) : Nat := digits.foldl (fun n d => 10 * n + digitValue d) 0

/-- Why a text is no number below the bound. -/
inductive NatFault where
  | empty | notADigit | tooLarge
  deriving DecidableEq

/-- The wording of the fault. -/
def NatFault.message : NatFault → Text
  | .empty => "cannot parse integer from empty string"
  | .notADigit => "invalid digit found in string"
  | .tooLarge => "number too large to fit in target type"

/-- One more digit behind a number below `bound`. -/
def addDigit (bound n : Nat) (c : Char) : Except NatFault Nat :=
  if !isDigit c then .error .notADigit
  else if 10 * n + digitValue c < bound then .ok (10 * n + digitValue c)
  else .error .tooLarge

/-- The number that a text stands for: digits, with one plus sign allowed before them, and a value
below `bound`. -/
def readNat (bound : Nat) (t : Text) : Except NatFault Nat :=
  match t with
  | [] => .error .empty
  | ['+'] => .error .notADigit
  | '+' :: digits => digits.foldlM (addDigit bound) 0
  | digits => digits.foldlM (addDigit bound) 0

end DesignTokens
