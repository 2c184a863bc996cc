import DesignTokens.Json.Number

/-!
Documents as text, in one line or indented by two spaces. Quotes, backslashes and control characters
are escaped, everything else stands as it is; an empty list or object takes no line of its own.
-/

namespace DesignTokens.Json

/-- A character inside quotes. -/
def escapeChar (c : Char) : Text :=
  if c = '"' then "\\\""
  else if c = '\\' then "\\\\"
  else if 0x20 ≤ c.toNat then [c]
  else if c = '\n' then "\\n"
  else if c = '\r' then "\\r"
  else if c = '\t' then "\\t"
  else if c.toNat = 8 then "\\b"
  else if c.toNat = 12 then "\\f"
  else "\\u00" ++ [hexDigit (c.toNat / 16), hexDigit (c.toNat % 16)]

/-- A text in quotes. -/
def quote (t : Text) : Text := '"' :: t.flatMap escapeChar ++ ['"']

mutual

/-- The document in one line, without spaces. -/
def compact : Json → Text
  | .null => "null"
  | .bool b => if b then "true" else "false"
  | .number n => n.write
  | .string t => quote t
  | .array items => '[' :: compactItems items ++ [']']
  | .object fields => '{' :: compactFields fields ++ ['}']

/-- Items with commas between them. -/
def compactItems : List Json → Text
  | [] => []
  | [item] => item.compact
  | item :: items => item.compact ++ ',' :: compactItems items

/-- Fields with commas between them. -/
def compactFields : List (Text × Json) → Text
  | [] => []
  | [(key, value)] => quote key ++ ':' :: value.compact
  | (key, value) :: fields => quote key ++ ':' :: value.compact ++ ',' :: compactFields fields

end

/-- A line end and the indentation of a nesting depth. -/
def newLine (depth : Nat) : Text := '\n' :: List.replicate (2 * depth) ' '

mutual

/-- The document over several lines, at a nesting depth. -/
def prettyAt (depth : Nat) : Json → Text
  | .null => "null"
  | .bool b => if b then "true" else "false"
  | .number n => n.write
  | .string t => quote t
  | .array [] => "[]"
  | .array items => '[' :: prettyItems (depth + 1) items ++ newLine depth ++ [']']
  | .object [] => ['{', '}']
  | .object fields => '{' :: prettyFields (depth + 1) fields ++ newLine depth ++ ['}']

/-- Items, each on a line of its own, with commas between them. -/
def prettyItems (depth : Nat) : List Json → Text
  | [] => []
  | [item] => newLine depth ++ item.prettyAt depth
  | item :: items => newLine depth ++ item.prettyAt depth ++ ',' :: prettyItems depth items

/-- Fields, each on a line of its own, with commas between them. -/
def prettyFields (depth : Nat) : List (Text × Json) → Text
  | [] => []
  | [(key, value)] => newLine depth ++ quote key ++ ": " ++ value.prettyAt depth
  | (key, value) :: fields =>
    newLine depth ++ quote key ++ ": " ++ value.prettyAt depth ++ ',' :: prettyFields depth fields

end

/-- The document over several lines, indented by two spaces. -/
def pretty (j : Json) : Text := prettyAt 0 j

end DesignTokens.Json
