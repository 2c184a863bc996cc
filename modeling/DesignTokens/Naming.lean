import DesignTokens.Depth
import DesignTokens.Json.Basic
import DesignTokens.Text.Blank
import DesignTokens.Text.Case

/-!
Names of custom properties. A key gives a segment: its blanks replaced run by run, then all of it in
small letters if asked for. The last segments of a path, as many as the depth says, are joined by
the separator, and the marker goes in front, with the brand and a separator behind it if there is
one:

    Typography / Display 1 / Font Size   ──▶   --brand-display-1-font-size
-/

namespace DesignTokens

/-- What every custom property starts with. -/
def marker : Text := ['-', '-']

/-- How keys become names. -/
structure Naming where
  /-- Stands between the segments of a name. -/
  separator : Text
  lowercase : Bool
  /-- Whether blanks within a key are replaced. -/
  replaceBlanks : Bool
  blankReplacement : Text
  depth : Depth
  /-- Stands in front of every name, behind the marker. -/
  brand : Option Text
  useBrand : Bool
  deriving DecidableEq

/-- A text with each run of blanks replaced, then in small letters if asked for. -/
def segment (replacement : Text) (lowercase : Bool) (t : Text) : Text :=
  Text.lowerIf lowercase (Text.replaceBlanks replacement false t)

/-- The marker, with the brand behind it when one is used: an empty brand and the marker itself are
none, the marker is not doubled, and a separator follows unless the brand ends with it. -/
def brandMark (brand : Option Text) (useBrand : Bool) (separator : Text) : Text :=
  match brand with
  | some brand =>
    if useBrand && brand ≠ [] && brand ≠ marker then
      let marked := if marker.isPrefixOf brand then brand else marker ++ brand
      if separator.isSuffixOf marked then marked else marked ++ separator
    else marker
  | none => marker

namespace Naming

/-- Dashes, small letters, the last key, and a brand that is not used. -/
def default : Naming where
  separator := "-"
  lowercase := true
  replaceBlanks := true
  blankReplacement := "-"
  depth := .one
  brand := some "tgds"
  useBrand := false

/-- What a key adds to the segments of a path. -/
def segment (n : Naming) (key : Text) : Text :=
  if n.replaceBlanks then DesignTokens.segment n.blankReplacement n.lowercase key else key

/-- The mark in front of every name. -/
def mark (n : Naming) : Text := brandMark n.brand n.useBrand n.separator

/-- The name of a path of segments. -/
def identifier (n : Naming) (path : List Text) : Text :=
  n.mark ++ Text.lowerIf n.lowercase (Text.join n.separator (n.depth.slice path))

end Naming

/-! ### Keys of a whole document -/

/-- What the keys of metadata start with. -/
def isReserved (key : Text) : Bool := key.head? == some '$'

/-- A key as `Json.rekey` rewrites it. -/
def rekeyed (separator : Text) (lowercase : Bool) (key : Text) : Text :=
  if isReserved key then key else segment separator lowercase key

namespace Json

mutual

/-- The document with every key but those of metadata rewritten; keys that become alike merge. -/
def rekey (separator : Text) (lowercase : Bool) : Json → Json
  | .array items => .array (rekeyItems separator lowercase items)
  | .object fields => .object (Assoc.ofList (rekeyFields separator lowercase fields))
  | other => other

/-- The items with their keys rewritten. -/
def rekeyItems (separator : Text) (lowercase : Bool) : List Json → List Json
  | [] => []
  | item :: items => item.rekey separator lowercase :: rekeyItems separator lowercase items

/-- The fields with their keys, and those of their values, rewritten. -/
def rekeyFields (separator : Text) (lowercase : Bool) : List (Text × Json) → List (Text × Json)
  | [] => []
  | (key, value) :: fields =>
    (rekeyed separator lowercase key, value.rekey separator lowercase) ::
      rekeyFields separator lowercase fields

end

end Json

end DesignTokens
