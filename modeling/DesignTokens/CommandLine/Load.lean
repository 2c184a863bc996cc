import DesignTokens.CommandLine.Arguments
import DesignTokens.Storage.Mappings
import DesignTokens.Storage.Settings

/-!
Settings and context of a command line. Options override the settings of a file, and only the
settings that come of it all are checked. Edits of mappings are made one after the other, additions
first, and are saved at once if there is a mapping file.
-/

namespace DesignTokens

/-- Why there are no settings. -/
inductive SettingsError where
  | config (cause : ConfigError)
  /-- Widths are given for an input that there is not. -/
  | widthsWithoutFile (index : UInt64)
  /-- A label is given for an input that there is not. -/
  | labelWithoutFile (index : UInt64)
  deriving DecidableEq

/-- The wording of the error. -/
def SettingsError.message : SettingsError → Text
  | .config cause => cause.message
  | .widthsWithoutFile index => "--range index " ++ natText index.toNat ++ " has no input file"
  | .labelWithoutFile index => "--theme index " ++ natText index.toNat ++ " has no input file"

namespace Arguments

/-- Naming with the options in the place of what it says. -/
def overrideNaming (a : Arguments) (n : Naming) : Naming where
  separator := a.separator.getD n.separator
  lowercase := n.lowercase && !a.keepCase
  replaceBlanks := n.replaceBlanks && !a.keepBlanks
  blankReplacement := a.blankReplacement.getD n.blankReplacement
  depth := a.depth.getD n.depth
  brand := a.brand.or n.brand
  useBrand := n.useBrand || a.brand.isSome

/-- Settings with the options in the place of what they say. -/
def override (a : Arguments) (c : Config) : Config where
  mode := a.mode.getD c.mode
  naming := a.overrideNaming c.naming
  decimals := a.decimals.getD c.decimals
  useCodeSyntax := c.useCodeSyntax || a.codeSyntax
  tokenFormat := a.format.getD c.tokenFormat
  responsive := a.responsive.getD c.responsive
  pathSeparator := a.pathSeparator.getD c.pathSeparator
  sourceBrand := a.sourceBrand.or c.sourceBrand
  useSourceBrand := c.useSourceBrand || a.sourceBrand.isSome
  defaultFile := a.defaultFile.getD c.defaultFile
  files := c.files

/-- The variants with the widths of one of them set. -/
def setWidths (variants : List FileVariant) (w : WidthSetting) :
    Except SettingsError (List FileVariant) :=
  if w.index.toNat < variants.length then
    .ok (variants.modify w.index.toNat fun v =>
      { v with minWidth := w.minWidth, maxWidth := w.maxWidth })
  else .error (.widthsWithoutFile w.index)

/-- The variants with the label of one of them set. -/
def setLabel (variants : List FileVariant) (l : LabelSetting) :
    Except SettingsError (List FileVariant) :=
  if l.index.toNat < variants.length then
    .ok (variants.modify l.index.toNat fun v => { v with label := some l.label })
  else .error (.labelWithoutFile l.index)

/-- Settings with the widths and labels of the options; if there are any, every input has its own
variant. -/
def overrideVariants (a : Arguments) (c : Config) : Except SettingsError Config :=
  if a.widths.isEmpty && a.labels.isEmpty then .ok c
  else do
    let variants ← a.widths.foldlM setWidths (c.fileVariants a.files.length)
    let variants ← a.labels.foldlM setLabel variants
    .ok { c with files := variants }

/-- The settings that the options override. -/
def baseConfig (a : Arguments) (tree : FileTree) : Except SettingsError Config :=
  match a.config with
  | .none => .ok Config.default
  | some path => (Config.load tree path).mapError .config

/-- The settings of a command line. -/
def loadConfig (a : Arguments) (tree : FileTree) : Except SettingsError Config := do
  let base ← a.baseConfig tree
  let c ← a.overrideVariants (a.override base)
  match c.fault with
  | some e => .error (.config e)
  | .none => .ok c

/-- The keyword files to try: those given, or the standard ones that are there. -/
def keywordCandidates (a : Arguments) (tree : FileTree) : List Text :=
  if a.keywordFiles.isEmpty then KeywordSet.standardFiles.filter tree.has else a.keywordFiles

/-- The mapper with the edits made. -/
def edit (a : Arguments) (m : Mapper) : Mapper :=
  let added := a.map.foldl (fun m s => m.update s.name s.targets .none) m
  a.unmap.foldl (fun m name => (m.remove name).2) added

/-- Why mappings are not saved. -/
structure SaveError where
  path : Text
  cause : StoreError
  deriving DecidableEq

/-- The wording of what failed. -/
def SaveError.message (e : SaveError) : Text := "saving mappings to " ++ e.path

/-- The context of a command line, and the files once edits have been saved. -/
def loadContext (a : Arguments) (tree : FileTree) : Except SaveError (Context × FileTree) :=
  let context := Context.load tree (a.keywordCandidates tree) a.mappingFile
  if a.map.isEmpty && a.unmap.isEmpty then .ok (context, tree)
  else
    let context := { context with mapper := a.edit context.mapper }
    match a.mappingFile with
    | .none => .ok (context, tree)
    | some path =>
      match MappingFile.save tree path context.mapper.registry with
      | .ok tree => .ok (context, tree)
      | .error cause => .error ⟨path, cause⟩

end Arguments

end DesignTokens
