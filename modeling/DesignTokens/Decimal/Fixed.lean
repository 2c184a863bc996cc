import DesignTokens.Decimal.Double

/-!
A double with a fixed number of places after the point: the exact value, rounded to the nearest
multiple of that power of ten, a half to the even multiple. No double needs more than `1074` places,
so places past those are zeros and `Double.trimmed` leaves them out before they are written.
-/

namespace DesignTokens.Double

/-- The multiple of `10 ^ (-places)` nearest to `m * 2 ^ e`, as a count of such units. -/
def units (m : Nat) (e : Int) (places : Nat) : Nat :=
  let (num, den) := ratio m e
  roundDiv (num * Nat.pow 10 places) den

/-- A count of units of `10 ^ (-places)` with its point: at least one digit before it, none after it
if there are no places. -/
def pointed (n places : Nat) : Text :=
  let digits := natText n
  let padded := List.replicate (places + 1 - digits.length) '0' ++ digits
  let whole := padded.take (padded.length - places)
  if places = 0 then whole else whole ++ '.' :: padded.drop (padded.length - places)

/-- The double with exactly `places` digits after the point; a minus sign stands before every
negative value, zero included. -/
def fixed (places : Nat) : Double → Text
  | .finite s m e => (if s then ['-'] else []) ++ pointed (units m e places) places
  | .infinite s => (if s then ['-'] else []) ++ "inf"

/-- A number text without the zeros at its end if it has a point, and then without the point if
nothing is left after it. -/
def dropZeros (t : Text) : Text :=
  if t.contains '.' then
    let kept := t.reverse.dropWhile (· == '0')
    (kept.dropWhile (· == '.')).reverse
  else t

/-- The most places that a double can need. -/
def mostPlaces : Nat := 1074

/-- The double rounded to `places` places, without zeros at the end and never a negative zero. -/
def trimmed (places : Nat) (x : Double) : Text :=
  let t := dropZeros (x.fixed (min places mostPlaces))
  if t = ['-', '0'] then ['0'] else t

end DesignTokens.Double
