import DesignTokens.Json.Printer
import DesignTokens.Decimal.Fixed
import DesignTokens.Naming

/-!
Token values as the generators see them. A text is a reference when all of it is a path in braces, a
quantity when it begins with a decimal number, and otherwise a literal:

    reference  =  { segment . segment … }        segments are not empty and hold neither . nor }
    quantity   =  [-] ( digits [ . [digits] ] | . digits ) unit
                                                 the unit begins with neither a digit nor a point

A number of a document is a quantity without a unit, any other value a literal.
-/

namespace DesignTokens

/-- The value of a token. -/
inductive Expression where
  | reference (path : List Text)
  | quantity (number : Double) (unit : Text)
  | literal (text : Text)
  deriving DecidableEq

/-- The text between braces, if it is a path of segments that are not empty. -/
def referenceBody? : Text → Option Text
  | '{' :: rest =>
    match Text.cut? '}' rest with
    | some (body, []) => if (Text.splitOn '.' body).all (!·.isEmpty) then some body else none
    | _ => none
  | _ => none

/-- The path of a reference. -/
def reference? (t : Text) : Option (List Text) := (referenceBody? t).map (Text.splitOn '.')

/-- A decimal number at the front of a text, and what follows it. -/
structure Quantity where
  negative : Bool
  whole : Text
  /-- The places after the point, if there is a point. -/
  places : Option Text
  unit : Text
  deriving DecidableEq

/-- The number at the front of a text: digits with or without a point behind them, or a point with
digits behind it. -/
def Quantity.readUnsigned? (negative : Bool) (t : Text) : Option Quantity :=
  let whole := t.takeWhile isDigit
  match t.dropWhile isDigit with
  | '.' :: rest =>
    let places := rest.takeWhile isDigit
    if whole.isEmpty && places.isEmpty then none
    else some ⟨negative, whole, some places, rest.dropWhile isDigit⟩
  | rest => if whole.isEmpty then none else some ⟨negative, whole, none, rest⟩

/-- The number at the front of a text and its unit. -/
def Quantity.read? (t : Text) : Option Quantity :=
  (match t with
    | '-' :: rest => readUnsigned? true rest
    | _ => readUnsigned? false t).filter fun q => q.unit.head? != some '.'

/-- The double nearest to the number. -/
def Quantity.number (q : Quantity) : Double :=
  let places := q.places.getD []
  Double.ofDecimal q.negative (natOf (q.whole ++ places)) places.length

/-- A value that is written as text: text as it stands, null as nothing, lists and objects in one
line. -/
def Json.literal : Json → Text
  | .string t => t
  | .null => []
  | other => other.compact

namespace Expression

/-- The value that a text is. -/
def ofText (t : Text) : Expression :=
  match reference? t with
  | some path => .reference path
  | none =>
    match Quantity.read? t with
    | some q => .quantity q.number q.unit
    | none => .literal t

/-- The value that a node of a document is. -/
def ofJson : Json → Expression
  | .string t => ofText t
  | .number n => .quantity n.toDouble []
  | other => .literal other.literal

/-- The value in a class rule: numbers rounded, references by small letters and dashes. -/
def css (places : Nat) : Expression → Text
  | .reference path => "var(--" ++ Text.lower (Text.join ['-'] path) ++ ")"
  | .quantity number unit => number.trimmed places ++ unit
  | .literal t => t

end Expression

/-- A text with the number at its front rounded; a text without one as it stands. -/
def formatText (places : Nat) (t : Text) : Text :=
  match Expression.ofText t with
  | .quantity number unit => number.trimmed places ++ unit
  | _ => t

/-- A value with its number rounded. -/
def Json.format (places : Nat) : Json → Text
  | .string t => formatText places t
  | .number n => n.toDouble.trimmed places
  | other => other.literal

/-- The path of a value that is a reference and nothing else, its segments joined by points. -/
def Json.referenceBody? (j : Json) : Option Text := j.text?.bind DesignTokens.referenceBody?

/-- How a reference to another custom property is spelled. -/
structure ReferenceStyle where
  /-- Stands behind the brand. -/
  separator : Text
  /-- Stands between segments. -/
  pathSeparator : Text
  blankReplacement : Text
  lowercase : Bool
  brand : Option Text
  useBrand : Bool
  deriving DecidableEq

/-- A path, its segments joined by points, as the use of a custom property. -/
def ReferenceStyle.spell (style : ReferenceStyle) (path : Text) : Text :=
  "var(" ++ brandMark style.brand style.useBrand style.separator ++
    Text.join style.pathSeparator
      ((Text.splitOn '.' path).map (segment style.blankReplacement style.lowercase)) ++ ")"

end DesignTokens
