import DesignTokens.Json.Basic
import DesignTokens.Decimal.Shortest

/-!
Numbers as documents write them: an optional minus sign, digits without superfluous zeros in front,
an optional fraction and an optional exponent of ten.

Reading keeps an integer that fits sixty-four bits exact. Any other number becomes a double in two
roundings: as many digits as fit sixty-four bits make a significand, which is rounded and then
multiplied or divided by the nearest double to a power of ten. A product past the doubles is an
error, a quotient below them is zero.

Writing gives a double the fewest digits that read back, with a point in a number between `1e-5` and
`1e16` and an exponent elsewhere.
-/

namespace DesignTokens

/-- The parts of a written number. -/
structure NumberText where
  negative : Bool
  whole : Text
  fraction : Option Text
  exponent : Option (Bool × Text)
  deriving DecidableEq

namespace NumberText

/-- A text cut where its digits at the front end. -/
def spanDigits (t : Text) : Text × Text := (t.takeWhile isDigit, t.dropWhile isDigit)

/-- The exponent, if the text is one: `e` or `E`, a sign or none, and digits. -/
def readExponent : Text → Option (Option (Bool × Text))
  | [] => some none
  | e :: rest =>
    if e == 'e' || e == 'E' then
      let (negative, digits) := match rest with
        | '+' :: ds => (false, ds)
        | '-' :: ds => (true, ds)
        | ds => (false, ds)
      if digits.isEmpty || !digits.all isDigit then none else some (some (negative, digits))
    else none

/-- The number that a whole text spells. -/
def read? (t : Text) : Option NumberText :=
  let (negative, t) := match t with
    | '-' :: rest => (true, rest)
    | _ => (false, t)
  let (whole, t) := spanDigits t
  if whole.isEmpty || (whole.head? == some '0' && whole.length ≠ 1) then none
  else match t with
    | '.' :: rest =>
      let (places, rest) := spanDigits rest
      if places.isEmpty then none
      else (readExponent rest).map fun e => ⟨negative, whole, some places, e⟩
    | rest => (readExponent rest).map fun e => ⟨negative, whole, none, e⟩

end NumberText

namespace JsonNumber

/-- What a significand may not reach. -/
def significandBound : Nat := Nat.pow 2 64

/-- Digits taken into a significand while it stays below its bound, with the digits left over. -/
def takeDigits (significand : Nat) : Text → Nat × Text
  | [] => (significand, [])
  | d :: rest =>
    let more := 10 * significand + digitValue d
    if more < significandBound then takeDigits more rest else (significand, d :: rest)

/-- The quotient by `10 ^ 308`, taken again and again until it is zero or the count is used up. -/
def overTenTo308 (x : Double) : Nat → Double
  | 0 => x
  | n + 1 => if x.isZero then x else overTenTo308 (x.overTenTo 308) n

/-- A significand times a power of ten; `none` past the doubles. -/
def scale? (significand : Nat) (exponent : Int) : Option Double :=
  let x := Double.ofNat significand
  match exponent with
  | .ofNat k =>
    if x.isZero then some x
    else if 308 < k then none
    else
      let y := x.timesTenTo k
      if y.isInfinite then none else some y
  | .negSucc k =>
    let steps := k / 308
    some ((overTenTo308 x steps).overTenTo (k + 1 - 308 * steps))

/-- The double that the parts spell, without their sign. -/
def size? (n : NumberText) : Option Double :=
  let (significand, dropped) := takeDigits 0 n.whole
  let places := n.fraction.getD []
  let (significand, left) := takeDigits significand places
  let shift : Int := (dropped.length : Int) - ((places.length - left.length : Nat) : Int)
  let power : Int := match n.exponent with
    | none => 0
    | some (negative, digits) => if negative then -(natOf digits : Int) else natOf digits
  scale? significand (shift + power)

/-- The integer that the parts spell, if they have neither fraction nor exponent and it fits. -/
def integer? (n : NumberText) : Option Int :=
  match n.fraction, n.exponent with
  | none, none =>
    let v := natOf n.whole
    if n.negative then if 0 < v ∧ v ≤ Nat.pow 2 63 then some (-(v : Int)) else none
    else if v < significandBound then some (v : Int) else none
  | _, _ => none

/-- The number that the parts spell; `none` past the doubles. -/
def ofText? (n : NumberText) : Option JsonNumber :=
  match integer? n with
  | some i => some (.integer i)
  | none => (size? n).map fun x => .double (if n.negative then x.neg else x)

end JsonNumber

/-- How a shortest decimal is laid out: the powers of ten of its first digit between which it is
written with a point and no exponent. -/
structure NumberLayout where
  lowest : Int
  highest : Int

namespace NumberLayout

/-- A document writes a number from `1e-5` to below `1e16` with a point. -/
def document : NumberLayout := ⟨-5, 15⟩

/-- A decimal with a point, or with an exponent that carries its sign. -/
def write (layout : NumberLayout) (d : Decimal) : Text :=
  let digits := natText d.digits
  let power : Int := (digits.length : Int) - 1 + d.exponent
  if power < layout.lowest || layout.highest < power then
    let places := digits.drop 1
    digits.take 1 ++ (if places.isEmpty then [] else '.' :: places) ++
      'e' :: (if power < 0 then '-' else '+') :: natText power.natAbs
  else if power < 0 then
    "0." ++ List.replicate (-power - 1).toNat '0' ++ digits
  else if 0 ≤ d.exponent then
    digits ++ List.replicate d.exponent.toNat '0' ++ ".0"
  else
    digits.take (power.toNat + 1) ++ '.' :: digits.drop (power.toNat + 1)

end NumberLayout

/-- A double as a document writes it; an infinity, which no document holds, is null. -/
def Double.write : Double → Text
  | .finite s m e =>
    (if s then ['-'] else []) ++
      (if m = 0 then ("0.0" : Text) else NumberLayout.document.write (Double.shortest m e))
  | .infinite _ => "null"

/-- A number as a document writes it. -/
def JsonNumber.write : JsonNumber → Text
  | .integer i => intText i
  | .double x => x.write

end DesignTokens
