import DesignTokens.Text.Basic

/-!
Options and what words of a command line say about them. An option has a long name behind two dashes
and may have a letter behind one; a switch stands alone, a setting takes a value: behind an equals
sign, directly behind its letter, or in the next word. Letters may share a dash as long as they are
switches. A word without a dash, a lone dash and everything behind a lone pair of dashes is a file.

Reading the words gives statements: files, switches and settings in their order. Files and a setting
whose value is a word of its own become a statement only when something else begins, so an option
that there is not hides what stands before it.
-/

namespace DesignTokens

/-- An option that stands alone. -/
inductive Switch where
  | keepBlanks | keepCase | codeSyntax | watch | verbose | help
  deriving DecidableEq

/-- An option that takes a value. -/
inductive ValueOption where
  | config | mode | format | responsive | separator | blankReplacement | depth | brand | sourceBrand
  | pathSeparator | decimals | defaultFile | widths | label | keywords | mappings | map | unmap
  | output
  deriving DecidableEq

/-- An option. -/
inductive CommandOption where
  | switch (s : Switch)
  | value (v : ValueOption)
  deriving DecidableEq

namespace CommandOption

/-- The names behind two dashes. -/
def longNames : List (Text × CommandOption) :=
  [("config", .value .config), ("mode", .value .mode), ("format", .value .format),
    ("responsive", .value .responsive), ("separator", .value .separator),
    ("space", .value .blankReplacement), ("keep-spaces", .switch .keepBlanks),
    ("keep-case", .switch .keepCase), ("depth", .value .depth), ("prefix", .value .brand),
    ("source-prefix", .value .sourceBrand), ("path-separator", .value .pathSeparator),
    ("code-syntax", .switch .codeSyntax), ("decimals", .value .decimals),
    ("default", .value .defaultFile), ("range", .value .widths), ("theme", .value .label),
    ("keywords", .value .keywords), ("mappings", .value .mappings), ("map", .value .map),
    ("unmap", .value .unmap), ("output", .value .output), ("watch", .switch .watch),
    ("verbose", .switch .verbose), ("help", .switch .help)]

/-- The letters behind one dash. -/
def letters : List (Char × CommandOption) :=
  [('c', .value .config), ('o', .value .output), ('v', .switch .verbose), ('h', .switch .help)]

end CommandOption

/-- What a command line states. -/
inductive Statement where
  | files (paths : List Text)
  | switch (s : Switch)
  | setting (v : ValueOption) (value : Option Text)
  deriving DecidableEq

/-- Why a word cannot be read. -/
inductive WordFault where
  /-- No option has that name. -/
  | unknown
  /-- A value is attached to a switch. -/
  | surplusValue
  deriving DecidableEq

/-- The statements made so far, last first, the one that a next word may still change, and why no
further word can be read, if so. -/
structure Reading where
  done : List Statement
  waiting : Option Statement
  fault : Option WordFault
  deriving DecidableEq

namespace Reading

/-- Nothing read. -/
def empty : Reading := ⟨[], none, none⟩

/-- The reading with the waiting statement made. -/
def settle (r : Reading) : Reading := { r with done := r.waiting.toList ++ r.done, waiting := none }

/-- The reading with one more statement. -/
def state (r : Reading) (s : Statement) : Reading :=
  { r.settle with done := s :: r.settle.done }

/-- The reading with a statement that the next word may change. -/
def await (r : Reading) (s : Statement) : Reading := { r.settle with waiting := some s }

/-- The reading with one more file. -/
def file (r : Reading) (path : Text) : Reading :=
  match r.waiting with
  | some (.files paths) => { r with waiting := some (.files (paths ++ [path])) }
  | _ => r.await (.files [path])

/-- The reading that ends at a word, the waiting statement forgotten. -/
def fail (r : Reading) (fault : WordFault) : Reading :=
  { r with waiting := none, fault := some fault }

/-- The statements in order. -/
def statements (r : Reading) : List Statement := r.settle.done.reverse

/-- The reading after a setting, with the value attached to it, if any. -/
def setting (r : Reading) (v : ValueOption) : Option Text → Reading
  | none => r.await (.setting v none)
  | some value => r.state (.setting v (some value))

/-- The reading after an option by its long name, with the value attached to it, if any. -/
def long (r : Reading) (name : Text) (attached : Option Text) : Reading :=
  match CommandOption.longNames.lookup name with
  | none => r.fail .unknown
  | some (.value v) => r.setting v attached
  | some (.switch s) => if attached.isSome then r.fail .surplusValue else r.state (.switch s)

/-- The value attached to a letter: what follows it, without an equals sign at its front. -/
def attachedToLetter? : Text → Option Text
  | [] => none
  | '=' :: rest => some rest
  | rest => some rest

/-- The reading after options by their letters. -/
def short (r : Reading) : Text → Reading
  | [] => r
  | c :: rest =>
    match CommandOption.letters.lookup c with
    | none => r.fail .unknown
    | some (.value v) => r.setting v (attachedToLetter? rest)
    | some (.switch s) => short (r.state (.switch s)) rest

/-- The reading after a word that is no option: the value that is waited for, or a file. -/
def plain (r : Reading) (word : Text) : Reading :=
  match r.waiting with
  | some (.setting v none) => { r with waiting := some (.setting v (some word)) }
  | _ => r.file word

/-- The reading after a word in which options are looked for. -/
def word (r : Reading) : Text → Reading
  | '-' :: '-' :: rest =>
    match Text.cut? '=' rest with
    | some (name, value) => r.long name (some value)
    | none => r.long rest none
  | '-' :: c :: rest => r.short (c :: rest)
  | w => r.plain w

/-- The reading after words, of which those behind a lone pair of dashes are files. -/
def words (r : Reading) : List Text → Reading
  | [] => r
  | w :: rest =>
    if r.fault.isSome then r
    else if w = ['-', '-'] then rest.foldl file r
    else words (r.word w) rest

end Reading

end DesignTokens
