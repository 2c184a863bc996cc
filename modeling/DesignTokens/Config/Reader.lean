import DesignTokens.Config.Basic
import DesignTokens.Config.Setting
import DesignTokens.Mapping.Basic

/-!
Reading structures from settings trees, field by field: depths, naming, file variants, whole
settings and property mappings. All fields but the name of a mapping may be missing.
-/

namespace DesignTokens

/-- A depth: a count, or a text that is a count or the word for all keys. -/
def Depth.ofSetting? : Setting → Option Depth
  | .text t => Depth.read? t
  | s => s.count?.map fun n => (Depth.last n).normalized

/-- The fields of naming. -/
def Naming.fieldNames : List Text :=
  ["separator", "lowercase", "replaceWhitespace", "whitespaceReplacement", "propertyPathDepth",
    "prefix", "usePrefix"]

/-- Naming, with the default for what is missing. -/
def Naming.ofSetting? (format : SettingFormat) (s : Setting) : Option Naming := do
  let [separator, lowercase, replaceBlanks, blankReplacement, depth, brand, useBrand] ←
    s.fields? format fieldNames | none
  some {
    separator := ← Setting.orElse default.separator Setting.text? separator
    lowercase := ← Setting.orElse default.lowercase Setting.bool? lowercase
    replaceBlanks := ← Setting.orElse default.replaceBlanks Setting.bool? replaceBlanks
    blankReplacement := ← Setting.orElse default.blankReplacement Setting.text? blankReplacement
    depth := ← Setting.orElse default.depth Depth.ofSetting? depth
    brand := ← Setting.orElse default.brand (Setting.nullable? Setting.text?) brand
    useBrand := ← Setting.orElse default.useBrand Setting.bool? useBrand }

/-- The fields of a file variant. -/
def FileVariant.fieldNames : List Text := ["minWidth", "maxWidth", "label"]

/-- A file variant, without the bounds and label that are missing. -/
def FileVariant.ofSetting? (format : SettingFormat) (s : Setting) : Option FileVariant := do
  let [minWidth, maxWidth, label] ← s.fields? format fieldNames | none
  some {
    minWidth := ← Setting.orElse none (Setting.nullable? Setting.width?) minWidth
    maxWidth := ← Setting.orElse none (Setting.nullable? Setting.width?) maxWidth
    label := ← Setting.orElse none (Setting.nullable? Setting.text?) label }

/-- The words for what a conversion makes. -/
def OutputMode.words : List (Text × OutputMode) :=
  [("jsonToCss", .classes), ("jsonToToken", .properties), ("tokenToToken", .references)]

/-- The words for what sets inputs apart. -/
def Responsive.words : List (Text × Responsive) := [("resolution", .resolution), ("theme", .theme)]

/-- The words for how variables are written. -/
def TokenFormat.words : List (Text × TokenFormat) :=
  [("cssVars", .customProperties), ("plainJson", .nestedJson)]

/-- The fields of settings. -/
def Config.fieldNames : List Text :=
  ["mode", "naming", "decimals", "useCodeSyntax", "tokenFormat", "responsive", "pathSeparator",
    "sourcePrefix", "useSourcePrefix", "defaultFile", "files"]

/-- Settings, with the default for what is missing. -/
def Config.ofSetting? (format : SettingFormat) (s : Setting) : Option Config := do
  let [mode, naming, decimals, useCodeSyntax, tokenFormat, responsive, pathSeparator, sourceBrand,
    useSourceBrand, defaultFile, files] ← s.fields? format fieldNames | none
  some {
    mode := ← Setting.orElse default.mode (Setting.choice? format OutputMode.words) mode
    naming := ← Setting.orElse default.naming (Naming.ofSetting? format) naming
    decimals := ← Setting.orElse default.decimals Setting.count? decimals
    useCodeSyntax := ← Setting.orElse default.useCodeSyntax Setting.bool? useCodeSyntax
    tokenFormat :=
      ← Setting.orElse default.tokenFormat (Setting.choice? format TokenFormat.words) tokenFormat
    responsive :=
      ← Setting.orElse default.responsive (Setting.choice? format Responsive.words) responsive
    pathSeparator := ← Setting.orElse default.pathSeparator Setting.text? pathSeparator
    sourceBrand :=
      ← Setting.orElse default.sourceBrand (Setting.nullable? Setting.text?) sourceBrand
    useSourceBrand := ← Setting.orElse default.useSourceBrand Setting.bool? useSourceBrand
    defaultFile := ← Setting.orElse default.defaultFile Setting.count? defaultFile
    files := ← Setting.orElse default.files (Setting.list? (FileVariant.ofSetting? format)) files }

/-- The fields of a mapping. -/
def Mapping.fieldNames : List Text := ["name", "mappedTo", "description"]

/-- A mapping, which has to have a name. -/
def Mapping.ofSetting? (format : SettingFormat) (s : Setting) : Option Mapping := do
  let [some name, targets, description] ← s.fields? format fieldNames | none
  let name ← name.text?
  let targets ← Setting.orElse [] (Setting.list? Setting.text?) targets
  let description ← Setting.orElse none (Setting.nullable? Setting.text?) description
  some (Mapping.of name targets description)

/-- The mappings that a document lists. -/
def Mapping.listOfJson? (j : Json) : Option (List Mapping) :=
  Setting.list? (Mapping.ofSetting? Setting.documentFormat) (Setting.ofJson j)

/-- The texts that the text of a document lists. -/
def Setting.textsOfText? (t : Text) : Option (List Text) :=
  (Setting.ofText? t).bind (Setting.list? Setting.text?)

end DesignTokens
