import DesignTokens.Config.Basic
import DesignTokens.Token

/-!
Tokens as custom properties in one block, with values as they are or with references to other custom
properties, and tokens as a nested object. In the nested object a later token wins: where its path
runs through an earlier token, or ends at a group, it takes that place.
-/

namespace DesignTokens

/-- A declaration on a line of its own. -/
def rootLine (declaration : Text × Text) : Text :=
  "  " ++ declaration.1 ++ ": " ++ declaration.2 ++ ";\n"

/-- Names and values as declarations in one block. -/
def rootBlock (lines : List (Text × Text)) : Text :=
  ":root \x7b\n" ++ lines.flatMap rootLine ++ "\x7d\n"

/-- The tokens as custom properties. -/
def customProperties (c : Config) (tokens : List Token) : Text :=
  rootBlock (tokens.map fun t =>
    (c.naming.identifier t.segments, t.formatted c.useCodeSyntax c.decimals.toNat))

/-- The value of a token among custom properties that refer to others. -/
def referringValue (c : Config) (t : Token) : Text :=
  match t.value.referenceBody? with
  | some path => c.referenceStyle.spell path
  | none => t.formatted c.useCodeSyntax c.decimals.toNat

/-- The tokens as custom properties that refer to others. -/
def referringProperties (c : Config) (tokens : List Token) : Text :=
  rootBlock (tokens.map fun t => (c.targetNaming.identifier t.segments, referringValue c t))

/-! ### The nested object -/

/-- The fields of an object; other nodes have none. -/
def Json.fields : Json → Assoc Text Json
  | .object fields => fields
  | _ => []

/-- An object with a value at a path of keys; what stands in the way is replaced. -/
def insertNested (value : Json) : List Text → Assoc Text Json → Assoc Text Json
  | [], fields => fields
  | [key], fields => Assoc.insert key value fields
  | key :: rest, fields =>
    let child := ((Assoc.find? key fields).map Json.fields).getD []
    Assoc.insert key (.object (insertNested value rest child)) fields

/-- The keys of a token in the nested object. -/
def nestedKeys (c : Config) (t : Token) : List Text :=
  t.segments.map (Text.lowerIf c.naming.lowercase)

/-- The nested object of tokens. -/
def nestedObject (c : Config) (tokens : List Token) : Json :=
  .object (tokens.foldl (fun fields t =>
    insertNested (.string (t.formatted c.useCodeSyntax c.decimals.toNat)) (nestedKeys c t) fields)
    [])

/-- The tokens as a nested object, written over several lines. -/
def nestedJson (c : Config) (tokens : List Token) : Text := (nestedObject c tokens).pretty

end DesignTokens
