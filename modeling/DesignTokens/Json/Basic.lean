import DesignTokens.Assoc
import DesignTokens.Decimal.Double

/-!
Documents: trees of null, booleans, numbers, texts, lists and objects. An object keeps the order of
its keys and holds each key once (`Json.WellFormed`); a number is an integer when it was written as
one that fits sixty-four bits, otherwise a double.
-/

namespace DesignTokens

/-- A number of a document. -/
inductive JsonNumber where
  | integer (value : Int)
  | double (value : Double)
  deriving DecidableEq

/-- The double nearest to a number. -/
def JsonNumber.toDouble : JsonNumber → Double
  | .integer i => Double.ofInt i
  | .double x => x

/-- A document. -/
inductive Json where
  | null
  | bool (value : Bool)
  | number (value : JsonNumber)
  | string (value : Text)
  | array (items : List Json)
  | object (fields : List (Text × Json))

namespace Json

/-- The value of a key, if the document is an object with that key. -/
def get? (key : Text) : Json → Option Json
  | .object fields => Assoc.find? key fields
  | _ => none

/-- The text of a document that is one. -/
def text? : Json → Option Text
  | .string t => some t
  | _ => none

/-- Whether the document is null. -/
def isNull : Json → Bool
  | .null => true
  | _ => false

mutual

/-- Every object in the document holds each of its keys once. -/
def WellFormed : Json → Prop
  | .array items => ItemsWellFormed items
  | .object fields => (fields.map Prod.fst).Nodup ∧ FieldsWellFormed fields
  | _ => True

/-- Every item is well-formed. -/
def ItemsWellFormed : List Json → Prop
  | [] => True
  | item :: items => item.WellFormed ∧ ItemsWellFormed items

/-- Every value of the fields is well-formed. -/
def FieldsWellFormed : List (Text × Json) → Prop
  | [] => True
  | (_, value) :: fields => value.WellFormed ∧ FieldsWellFormed fields

end

end Json

end DesignTokens
