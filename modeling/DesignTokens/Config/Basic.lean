import DesignTokens.Expression

/-!
Settings of a conversion: independent values, of which each generator reads the ones that concern
it. Separators may not be longer than five characters, and the two that join segments may not be
empty; the first separator that breaks the rule is the one reported.
-/

namespace DesignTokens

/-- What a conversion makes of tokens. -/
inductive OutputMode where
  /-- Class rules, grouped by path. -/
  | classes
  /-- Values as custom properties or as a nested object. -/
  | properties
  /-- Custom properties that refer to other custom properties. -/
  | references
  deriving DecidableEq

/-- What sets the inputs of a class pass apart. -/
inductive Responsive where
  | resolution | theme
  deriving DecidableEq

/-- How variables are written. -/
inductive TokenFormat where
  | customProperties | nestedJson
  deriving DecidableEq

/-- The widths and the label of an input; widths count when inputs are set apart by resolution, the
label when they are themes. -/
structure FileVariant where
  minWidth : Option UInt32
  maxWidth : Option UInt32
  label : Option Text
  deriving DecidableEq

namespace FileVariant

/-- An input without widths and label. -/
def blank : FileVariant := ⟨none, none, none⟩

/-- The variant that stands in for an input at a position: wide, middle, then narrow screens; a
light theme, then dark ones. -/
def standard : Nat → FileVariant
  | 0 => ⟨some 1440, none, some "light"⟩
  | 1 => ⟨some 768, some 1439, some "dark"⟩
  | _ => ⟨none, some 767, some "dark"⟩

/-- Whether a width is given. -/
def hasBounds (v : FileVariant) : Bool := v.minWidth.isSome || v.maxWidth.isSome

end FileVariant

/-- The settings of a conversion. -/
structure Config where
  mode : OutputMode
  naming : Naming
  /-- How many places of a number are kept. -/
  decimals : UInt64
  useCodeSyntax : Bool
  tokenFormat : TokenFormat
  responsive : Responsive
  /-- Stands between the segments of names and references that refer to each other. -/
  pathSeparator : Text
  /-- The brand of the custom properties that are referred to. -/
  sourceBrand : Option Text
  useSourceBrand : Bool
  /-- The index of the default input. -/
  defaultFile : UInt64
  files : List FileVariant
  deriving DecidableEq

/-- The settings that hold a separator. -/
inductive SeparatorField where
  | separator | blankReplacement | pathSeparator
  deriving DecidableEq

/-- The name under which the setting is written. -/
def SeparatorField.name : SeparatorField → Text
  | .separator => "separator"
  | .blankReplacement => "whitespaceReplacement"
  | .pathSeparator => "pathSeparator"

/-- Why settings cannot be used. -/
inductive ConfigError where
  | emptySeparator (field : SeparatorField)
  | separatorTooLong (field : SeparatorField) (value : Text)
  /-- The file cannot be read as text. -/
  | unreadable (path : Text)
  /-- The file holds no settings. -/
  | malformed (path : Text)
  deriving DecidableEq

/-- The most characters a separator may have. -/
def mostSeparatorChars : Nat := 5

/-- The wording of the error, as far as it does not depend on the system. -/
def ConfigError.message : ConfigError → Text
  | .emptySeparator field => field.name ++ " must not be empty"
  | .separatorTooLong field value =>
    field.name ++ " '" ++ value ++ "' is longer than " ++ natText mostSeparatorChars ++
      " characters"
  | .unreadable path => "failed to read config " ++ path
  | .malformed path => "failed to parse config " ++ path

namespace Config

/-- Class rules by resolution, four places, and default naming. -/
def default : Config where
  mode := .classes
  naming := .default
  decimals := 4
  useCodeSyntax := false
  tokenFormat := .customProperties
  responsive := .resolution
  pathSeparator := "-"
  sourceBrand := some "tgds"
  useSourceBrand := false
  defaultFile := 0
  files := []

/-- What is wrong with a separator, if anything. -/
def separatorFault (field : SeparatorField) (value : Text) (mayBeEmpty : Bool) :
    Option ConfigError :=
  if value.isEmpty && !mayBeEmpty then some (.emptySeparator field)
  else if mostSeparatorChars < value.length then some (.separatorTooLong field value)
  else none

/-- What is wrong with the settings, if anything; the earliest setting wins. -/
def fault (c : Config) : Option ConfigError :=
  (separatorFault .separator c.naming.separator false).or
    ((separatorFault .blankReplacement c.naming.blankReplacement true).or
      (separatorFault .pathSeparator c.pathSeparator false))

/-- The variant of an input: the one given for it, or the standard one of its position. -/
def fileVariant (c : Config) (index : Nat) : FileVariant :=
  c.files[index]?.getD (FileVariant.standard index)

/-- The variants of the first inputs. -/
def fileVariants (c : Config) (count : Nat) : List FileVariant :=
  (List.range count).map c.fileVariant

@[simp] theorem length_fileVariants (c : Config) (count : Nat) :
    (c.fileVariants count).length = count := by
  rw [fileVariants, List.length_map, List.length_range]

theorem getElem?_fileVariants (c : Config) {count index : Nat} (h : index < count) :
    (c.fileVariants count)[index]? = some (c.fileVariant index) := by
  rw [fileVariants, List.getElem?_map, List.getElem?_range h, Option.map_some]

/-- The naming of custom properties that refer to others: segments are joined by the path
separator. -/
def targetNaming (c : Config) : Naming := { c.naming with separator := c.pathSeparator }

/-- The spelling of references to other custom properties. -/
def referenceStyle (c : Config) : ReferenceStyle where
  separator := c.naming.separator
  pathSeparator := c.pathSeparator
  blankReplacement := c.naming.blankReplacement
  lowercase := c.naming.lowercase
  brand := c.sourceBrand
  useBrand := c.useSourceBrand

end Config

end DesignTokens
