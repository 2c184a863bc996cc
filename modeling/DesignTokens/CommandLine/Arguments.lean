import DesignTokens.CommandLine.Option
import DesignTokens.CommandLine.Value
import DesignTokens.Config.Reader

/-!
The arguments that statements amount to. Statements are gone through in order and the first that
cannot be taken is the error: one without a value, one that repeats an option that may be given
once, one whose value is refused. Only when all of them can be taken is a missing file noticed.
-/

namespace DesignTokens

/-- Why a command line cannot be understood. -/
inductive UsageError where
  | word (fault : WordFault)
  /-- An option has no value, or an empty path as its value. -/
  | missingValue
  /-- A value is none of those that are listed. -/
  | unlistedValue (value : Text)
  | refusedValue (fault : ValueFault)
  /-- An option that may be given once is given again. -/
  | repeated
  | noFiles
  /-- Help was asked for. -/
  | help
  deriving DecidableEq

/-- What is said of the error. -/
def UsageError.message : UsageError → Text
  | .word .unknown => "unexpected argument found"
  | .word .surplusValue => "unexpected value for a switch"
  | .missingValue => "a value is required"
  | .unlistedValue value => "invalid value '" ++ value ++ "'"
  | .refusedValue fault => "invalid value: " ++ fault.message
  | .repeated => "an argument cannot be used multiple times"
  | .noFiles => "the required arguments were not provided: <FILES>..."
  | .help => []

/-- What a command line asks for. -/
structure Arguments where
  files : List Text
  config : Option Text
  mode : Option OutputMode
  format : Option TokenFormat
  responsive : Option Responsive
  separator : Option Text
  blankReplacement : Option Text
  keepBlanks : Bool
  keepCase : Bool
  depth : Option Depth
  brand : Option Text
  sourceBrand : Option Text
  pathSeparator : Option Text
  codeSyntax : Bool
  decimals : Option UInt64
  defaultFile : Option UInt64
  widths : List WidthSetting
  labels : List LabelSetting
  /-- Keyword files in the order in which they are tried. -/
  keywordFiles : List Text
  mappingFile : Option Text
  map : List MappingSetting
  unmap : List Text
  output : Option Text
  watch : Bool
  verbose : Bool
  deriving DecidableEq

namespace Arguments

/-- Nothing asked for. -/
def none : Arguments where
  files := []
  config := .none
  mode := .none
  format := .none
  responsive := .none
  separator := .none
  blankReplacement := .none
  keepBlanks := false
  keepCase := false
  depth := .none
  brand := .none
  sourceBrand := .none
  pathSeparator := .none
  codeSyntax := false
  decimals := .none
  defaultFile := .none
  widths := []
  labels := []
  keywordFiles := []
  mappingFile := .none
  map := []
  unmap := []
  output := .none
  watch := false
  verbose := false

/-! ### Values -/

/-- A path, which may not be empty. -/
def readPath (t : Text) : Except UsageError Text :=
  if t.isEmpty then .error .missingValue else .ok t

/-- One of the values that have a word. -/
def readChoice (words : List (Text × α)) (t : Text) : Except UsageError α :=
  match words.lookup t with
  | some a => .ok a
  | .none => .error (.unlistedValue t)

/-- A value whose fault is a fault of usage. -/
def checked (read : Text → Except ValueFault α) (t : Text) : Except UsageError α :=
  (read t).mapError .refusedValue

/-- A count. -/
def count (t : Text) : Except ValueFault UInt64 := (readCount t).mapError .badCount

/-- The value of an option that may be given once. -/
def once (given : Option α) (read : Text → Except UsageError α) (t : Text) :
    Except UsageError (Option α) :=
  if given.isSome then .error .repeated else some <$> read t

/-- A switch that may be given once. -/
def turnOn (given : Bool) : Except UsageError Bool := if given then .error .repeated else .ok true

/-! ### Statements -/

/-- The arguments with one more setting. -/
def set (a : Arguments) (t : Text) : ValueOption → Except UsageError Arguments
  | .config => return { a with config := ← once a.config readPath t }
  | .mode => return { a with mode := ← once a.mode (readChoice OutputMode.words) t }
  | .format => return { a with format := ← once a.format (readChoice TokenFormat.words) t }
  | .responsive =>
    return { a with responsive := ← once a.responsive (readChoice Responsive.words) t }
  | .separator => return { a with separator := ← once a.separator .ok t }
  | .blankReplacement => return { a with blankReplacement := ← once a.blankReplacement .ok t }
  | .depth => return { a with depth := ← once a.depth (checked Depth.read) t }
  | .brand => return { a with brand := ← once a.brand .ok t }
  | .sourceBrand => return { a with sourceBrand := ← once a.sourceBrand .ok t }
  | .pathSeparator => return { a with pathSeparator := ← once a.pathSeparator .ok t }
  | .decimals => return { a with decimals := ← once a.decimals (checked count) t }
  | .defaultFile => return { a with defaultFile := ← once a.defaultFile (checked count) t }
  | .widths => return { a with widths := a.widths ++ [← checked WidthSetting.read t] }
  | .label => return { a with labels := a.labels ++ [← checked LabelSetting.read t] }
  | .keywords => return { a with keywordFiles := a.keywordFiles ++ [← readPath t] }
  | .mappings => return { a with mappingFile := ← once a.mappingFile readPath t }
  | .map => return { a with map := a.map ++ [← checked MappingSetting.read t] }
  | .unmap => return { a with unmap := a.unmap ++ [t] }
  | .output => return { a with output := ← once a.output readPath t }

/-- The arguments with one more switch. -/
def turn (a : Arguments) : Switch → Except UsageError Arguments
  | .keepBlanks => return { a with keepBlanks := ← turnOn a.keepBlanks }
  | .keepCase => return { a with keepCase := ← turnOn a.keepCase }
  | .codeSyntax => return { a with codeSyntax := ← turnOn a.codeSyntax }
  | .watch => return { a with watch := ← turnOn a.watch }
  | .verbose => return { a with verbose := ← turnOn a.verbose }
  | .help => .error .help

/-- The arguments with one more statement. -/
def take (a : Arguments) : Statement → Except UsageError Arguments
  | .files paths => return { a with files := a.files ++ (← paths.mapM readPath) }
  | .switch s => a.turn s
  | .setting _ .none => .error .missingValue
  | .setting v (some t) => a.set t v

/-- The arguments of the words of a command line. -/
def ofWords (words : List Text) : Except UsageError Arguments := do
  let reading := Reading.empty.words words
  let a ← reading.statements.foldlM take none
  match reading.fault with
  | some fault => .error (.word fault)
  | .none => if a.files.isEmpty then .error .noFiles else .ok a

end Arguments

end DesignTokens
