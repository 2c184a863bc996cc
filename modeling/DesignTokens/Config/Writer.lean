import DesignTokens.Config.Reader

/-!
Settings and mappings as documents: every field under its name, in order. An option that is not set
is null, but the description of a mapping is left out when there is none.
-/

namespace DesignTokens

namespace Json

/-- A natural as a number of a document. -/
def ofNat (n : Nat) : Json := .number (.integer n)

/-- A value, or null if there is none. -/
def ofOption (write : α → Json) : Option α → Json
  | none => .null
  | some a => write a

/-- Texts as a list. -/
def ofTexts (ts : List Text) : Json := .array (ts.map .string)

end Json

/-- A count, or the word for all keys. -/
def Depth.toJson : Depth → Json
  | .last count => Json.ofNat count.toNat
  | .all => .string word

/-- Naming as an object. -/
def Naming.toJson (n : Naming) : Json :=
  .object (fieldNames.zip
    [.string n.separator, .bool n.lowercase, .bool n.replaceBlanks, .string n.blankReplacement,
      n.depth.toJson, Json.ofOption .string n.brand, .bool n.useBrand])

/-- A file variant as an object. -/
def FileVariant.toJson (v : FileVariant) : Json :=
  .object (fieldNames.zip
    [Json.ofOption (fun w : UInt32 => Json.ofNat w.toNat) v.minWidth,
      Json.ofOption (fun w : UInt32 => Json.ofNat w.toNat) v.maxWidth,
      Json.ofOption .string v.label])

/-- The word for what a conversion makes. -/
def OutputMode.word : OutputMode → Text
  | .classes => "jsonToCss"
  | .properties => "jsonToToken"
  | .references => "tokenToToken"

/-- The word for what sets inputs apart. -/
def Responsive.word : Responsive → Text
  | .resolution => "resolution"
  | .theme => "theme"

/-- The word for how variables are written. -/
def TokenFormat.word : TokenFormat → Text
  | .customProperties => "cssVars"
  | .nestedJson => "plainJson"

/-- Settings as an object. -/
def Config.toJson (c : Config) : Json :=
  .object (fieldNames.zip
    [.string c.mode.word, c.naming.toJson, Json.ofNat c.decimals.toNat, .bool c.useCodeSyntax,
      .string c.tokenFormat.word, .string c.responsive.word, .string c.pathSeparator,
      Json.ofOption .string c.sourceBrand, .bool c.useSourceBrand,
      Json.ofNat c.defaultFile.toNat, .array (c.files.map FileVariant.toJson)])

/-- A mapping as an object. -/
def Mapping.toJson (m : Mapping) : Json :=
  .object ([("name".toList, .string m.name), ("mappedTo".toList, Json.ofTexts m.targets)] ++
    (m.description.map fun d => ("description".toList, Json.string d)).toList)

end DesignTokens
