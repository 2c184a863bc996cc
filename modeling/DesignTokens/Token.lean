import DesignTokens.Expression
import DesignTokens.Extensions
import DesignTokens.Property

/-!
Flattening a document into token records. An object with a type and a value, neither of them null,
is a token and is not looked into any further; any other object is a group whose keys are walked in
order, those of metadata left out, and a list is a group whose keys are its indices. A document that
is a token itself has no path, so it gives no record.
-/

namespace DesignTokens

/-- The key of a token's type. -/
def typeKey : Text := "$type"

/-- The key of a token's value. -/
def valueKey : Text := "$value"

/-- The key of a token's description. -/
def descriptionKey : Text := "$description"

/-- The key of what tools attach to a token. -/
def extensionsKey : Text := "$extensions"

/-- A token with the path that leads to it. -/
structure Token where
  /-- The keys from the root down, as they stand. -/
  path : List Text
  /-- The segments that the keys give. -/
  segments : List Text
  kind : Text
  value : Json
  description : Option Text
  extensions : Option Extensions
  /-- The last segment. -/
  property : Text
  /-- Whether the last segment is no standard property. -/
  isCustom : Bool

namespace Token

/-- Whether a field is there and not null. -/
def isSet (key : Text) (fields : Assoc Text Json) : Bool :=
  (Assoc.find? key fields).any (!·.isNull)

/-- Whether an object is a token. -/
def isToken (fields : Assoc Text Json) : Bool := isSet typeKey fields && isSet valueKey fields

/-- The record of a token at a path. -/
def ofFields (keywords : KeywordSet) (path segments : List Text) (fields : Assoc Text Json) :
    Token :=
  let property := segments.getLast?.getD []
  { path, segments
    kind := ((Assoc.find? typeKey fields).map Json.literal).getD []
    value := (Assoc.find? valueKey fields).getD .null
    description := (Assoc.find? descriptionKey fields).bind Json.text?
    extensions := Extensions.ofNode? (Assoc.find? extensionsKey fields)
    property
    isCustom := !isStandard keywords property }

mutual

/-- The tokens below a node, which `path` leads to. -/
def walk (n : Naming) (keywords : KeywordSet) (path segments : List Text) : Json → List Token
  | .object fields =>
    if isToken fields then
      if path.isEmpty then [] else [ofFields keywords path segments fields]
    else walkFields n keywords path segments fields
  | .array items => walkItems n keywords path segments 0 items
  | _ => []

/-- The tokens below the fields of a group. -/
def walkFields (n : Naming) (keywords : KeywordSet) (path segments : List Text) :
    List (Text × Json) → List Token
  | [] => []
  | (key, child) :: rest =>
    (if isReserved key then []
      else walk n keywords (path ++ [key]) (segments ++ [n.segment key]) child) ++
      walkFields n keywords path segments rest

/-- The tokens below the items of a list, of which the first has the given index. -/
def walkItems (n : Naming) (keywords : KeywordSet) (path segments : List Text) (index : Nat) :
    List Json → List Token
  | [] => []
  | child :: rest =>
    let key := natText index
    walk n keywords (path ++ [key]) (segments ++ [n.segment key]) child ++
      walkItems n keywords path segments (index + 1) rest

end

/-- The tokens of a document, in its order. -/
def extract (n : Naming) (keywords : KeywordSet) (document : Json) : List Token :=
  walk n keywords [] [] document

/-- The keys of the path joined by points. -/
def fullPath (t : Token) : Text := Text.join ['.'] t.path

/-- The code syntax attached to the token. -/
def codeSyntax? (t : Token) : Option CodeSyntax := t.extensions.bind Extensions.codeSyntax?

/-- The value to use: the preferred one of the code syntax, if that is asked for and there is one,
else the token's own. -/
def effectiveValue (t : Token) (useCodeSyntax : Bool) : Json :=
  if useCodeSyntax then (t.codeSyntax?.bind Extensions.preferred?).getD t.value else t.value

/-- The effective value with its number rounded. -/
def formatted (t : Token) (useCodeSyntax : Bool) (places : Nat) : Text :=
  (t.effectiveValue useCodeSyntax).format places

end Token

end DesignTokens
