import DesignTokens.Decimal.Digits

/-!
Double-precision numbers as exact values. A finite one is a sign and a mantissa below `2 ^ 53` times
a power of two from `-1074` on, with the mantissa at least `2 ^ 52` unless the power is the lowest;
zero has a sign of its own. A quotient of naturals becomes the nearest double, a tie the one with
the even mantissa, and everything from half a unit above the largest on is infinite. No operation
here has an undefined result, so there is no third kind of value.
-/

namespace DesignTokens

/-- The quotient rounded to the nearest natural, a half to the even one. -/
def roundDiv (num den : Nat) : Nat :=
  let q := num / den
  let r := num % den
  if 2 * r < den then q else if den < 2 * r then q + 1 else q + q % 2

/-- A double: `mantissa * 2 ^ exponent` with a sign, or an infinity. -/
inductive Double where
  | finite (negative : Bool) (mantissa : Nat) (exponent : Int)
  | infinite (negative : Bool)
  deriving DecidableEq

namespace Double

/-- The lowest power of two of a mantissa. -/
def lowestExponent : Int := -1074

/-- The highest power of two of a mantissa. -/
def highestExponent : Int := 971

/-- Zero with a sign. -/
def zero (negative : Bool) : Double := .finite negative 0 lowestExponent

/-- Whether `num / den` is at least `2 ^ k`. -/
def reaches (num den : Nat) (k : Int) : Bool :=
  den * Nat.pow 2 k.toNat ≤ num * Nat.pow 2 (-k).toNat

/-- The power of two that a positive quotient lies at or next above. -/
def binaryOrder (num den : Nat) : Int :=
  let k : Int := (num.log2 : Int) - (den.log2 : Int)
  if reaches num den k then k else k - 1

/-- A rounded mantissa at its power of two, moved up when rounding has taken it to `2 ^ 53`. -/
def ofMantissa (negative : Bool) (mantissa : Nat) (exponent : Int) : Double :=
  let (m, e) :=
    if mantissa = Nat.pow 2 53 then (Nat.pow 2 52, exponent + 1) else (mantissa, exponent)
  if highestExponent < e then .infinite negative else .finite negative m e

/-- The double nearest to `num / den`, a tie going to the even mantissa. -/
def ofRatio (negative : Bool) (num den : Nat) : Double :=
  if num = 0 then zero negative
  else
    let e := max lowestExponent (binaryOrder num den - 52)
    ofMantissa negative (roundDiv (num * Nat.pow 2 (-e).toNat) (den * Nat.pow 2 e.toNat)) e

/-- The double nearest to a natural. -/
def ofNat (n : Nat) : Double := ofRatio false n 1

/-- The double nearest to an integer. -/
def ofInt : Int → Double
  | .ofNat n => ofRatio false n 1
  | .negSucc n => ofRatio true (n + 1) 1

/-- The double nearest to `digits * 10 ^ (-places)`. -/
def ofDecimal (negative : Bool) (digits places : Nat) : Double :=
  ofRatio negative digits (Nat.pow 10 places)

/-- The other sign. -/
def neg : Double → Double
  | .finite s m e => .finite (!s) m e
  | .infinite s => .infinite (!s)

/-- Whether the double is a zero of either sign. -/
def isZero : Double → Bool
  | .finite _ m _ => m == 0
  | .infinite _ => false

/-- Whether the double is an infinity. -/
def isInfinite : Double → Bool
  | .finite .. => false
  | .infinite _ => true

/-- The size of a finite double as a quotient of naturals. -/
def ratio (m : Nat) (e : Int) : Nat × Nat := (m * Nat.pow 2 e.toNat, Nat.pow 2 (-e).toNat)

/-- The nearest double to the product with the nearest double to `10 ^ k`. -/
def timesTenTo (k : Nat) : Double → Double
  | .infinite s => .infinite s
  | .finite s m e =>
    match ofNat (Nat.pow 10 k) with
    | .infinite _ => .infinite s
    | .finite _ m' e' =>
      let (num, den) := ratio (m * m') (e + e')
      ofRatio s num den

/-- The nearest double to the quotient by the nearest double to `10 ^ k`. -/
def overTenTo (k : Nat) : Double → Double
  | .infinite s => .infinite s
  | .finite s m e =>
    match ofNat (Nat.pow 10 k) with
    | .infinite _ => zero s
    | .finite _ m' e' =>
      let (num, den) := ratio m (e - e')
      ofRatio s num (den * m')

/-- The sixty-four bits of the double as a natural: sign, eleven bits of exponent, mantissa. -/
def bits : Double → Nat
  | .finite s m e =>
    (if s then Nat.pow 2 63 else 0) +
      (if m < Nat.pow 2 52 then m else (e + 1075).toNat * Nat.pow 2 52 + (m - Nat.pow 2 52))
  | .infinite s => (if s then Nat.pow 2 63 else 0) + 2047 * Nat.pow 2 52

end Double

end DesignTokens
