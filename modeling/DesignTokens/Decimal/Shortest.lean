import DesignTokens.Decimal.Double

/-!
The fewest decimal digits that read back as a double. The reals that round to a double form an
interval, ends included when the mantissa is even; for one, two, … seventeen digits the two
neighbours of the value on that decimal grid are tried, the first grid with a hit wins, of two hits
the nearer, and of two equally near the one with the even last digit.
-/

namespace DesignTokens

/-- A decimal: `digits * 10 ^ exponent`. -/
structure Decimal where
  digits : Nat
  exponent : Int
  deriving DecidableEq

namespace Decimal

/-- How many times `10 ^ k` goes into the quotient `num / den`. -/
def floorAt (num den : Nat) (k : Int) : Nat :=
  (num * Nat.pow 10 (-k).toNat) / (den * Nat.pow 10 k.toNat)

/-- Compares `a / b` with `d * 10 ^ k`. -/
def compareAt (a b d : Nat) (k : Int) : Ordering :=
  compare (a * Nat.pow 10 (-k).toNat) (d * Nat.pow 10 k.toNat * b)

/-- The largest `k` with `10 ^ k` at most the positive quotient: the number of digits of its whole
part less one, or for a quotient below one the number of places to its first digit, negated. -/
def order (num den : Nat) : Int :=
  if den ≤ num then ((natText (num / den)).length : Int) - 1
  else -((natText ((den - 1) / num)).length : Int)

/-- The decimal without zeros at the end of its digits. -/
def strip : Nat → Decimal → Decimal
  | 0, d => d
  | fuel + 1, d =>
    if d.digits % 10 = 0 then strip fuel ⟨d.digits / 10, d.exponent + 1⟩ else d

end Decimal

namespace Double

/-- The reals that round to a double, as bounds over one denominator. -/
structure Basin where
  low : Nat
  value : Nat
  high : Nat
  den : Nat
  closed : Bool

/-- The basin of a positive double: half a unit either way, a quarter downwards from a power of two
that has a finer neighbour below. -/
def basin (m : Nat) (e : Int) : Basin :=
  let down := if m = Nat.pow 2 52 && lowestExponent < e then 1 else 2
  let (num, den) := ratio 1 (e - 2)
  ⟨(4 * m - down) * num, 4 * m * num, (4 * m + 2) * num, den, m % 2 == 0⟩

/-- Whether `d * 10 ^ k` rounds to the double of the basin. -/
def Basin.holds (b : Basin) (d : Nat) (k : Int) : Bool :=
  match Decimal.compareAt b.low b.den d k, Decimal.compareAt b.high b.den d k with
  | .lt, .gt => true
  | .eq, _ | _, .eq => b.closed
  | _, _ => false

/-- The hit on the grid of `10 ^ k`, if one of the value's two neighbours is one. -/
def Basin.hit? (b : Basin) (k : Int) : Option Nat :=
  let below := Decimal.floorAt b.value b.den k
  match b.holds below k, b.holds (below + 1) k with
  | true, true =>
    match Decimal.compareAt (2 * b.value) b.den (2 * below + 1) k with
    | .lt => some below
    | .gt => some (below + 1)
    | .eq => some (below + below % 2)
  | true, false => some below
  | false, true => some (below + 1)
  | false, false => none

/-- The first hit on the grids of `10 ^ k`, `10 ^ (k - 1)`, … -/
def Basin.search (b : Basin) : Nat → Int → Decimal
  | 0, k => ⟨Decimal.floorAt b.value b.den k, k⟩
  | fuel + 1, k =>
    match b.hit? k with
    | some d => Decimal.strip 20 ⟨d, k⟩
    | none => b.search fuel (k - 1)

/-- The shortest decimal that reads back as the positive double `m * 2 ^ e`. -/
def shortest (m : Nat) (e : Int) : Decimal :=
  let b := basin m e
  b.search 17 (Decimal.order b.value b.den)

end Double

end DesignTokens
