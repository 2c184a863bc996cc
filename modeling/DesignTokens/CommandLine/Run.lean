import DesignTokens.CommandLine.Load
import DesignTokens.Render.Output

/-!
A run: settings, then context, then one pass over the inputs, whose text goes to a file, into a
directory under the name of its kind, or to the standard output. An input that holds no text, or no
document, takes part without a document. A pass that cannot be made still gives its comment.
-/

namespace DesignTokens

/-- Why a run fails. -/
inductive RunError where
  | settings (cause : SettingsError)
  | save (cause : Arguments.SaveError)
  | write (path : Text) (cause : PathFault)
  /-- The pass cannot be made. -/
  | generation
  deriving DecidableEq

/-- The wording of the error, and of what caused it. -/
def RunError.messages : RunError → List Text
  | .settings cause => ["invalid configuration", cause.message]
  | .save cause => [cause.message, cause.cause.message]
  | .write path cause => ["writing " ++ path, cause.message]
  | .generation => ["generation failed"]

/-- What comes of a run: what it prints, the files after it, and why it failed, if it did. -/
structure Outcome where
  printed : Text
  files : FileTree
  error : Option RunError

namespace Arguments

/-- The input at a path. -/
def readSource (tree : FileTree) (path : Text) : Source :=
  match tree.text? path with
  | some text => Source.ofText (FileTree.fileName path) text
  | .none => ⟨FileTree.fileName path, .none⟩

/-- The inputs in order. -/
def readSources (a : Arguments) (tree : FileTree) : List Source := a.files.map (readSource tree)

/-- The path that an output is written to, in a directory under the name of its kind. -/
def outputPath (tree : FileTree) (target : Text) (o : Output) : Text :=
  if tree.hasDirectory target then FileTree.join target o.artifact.fileName else target

/-- What is printed of an output, and the files after it is written. -/
def emit (a : Arguments) (tree : FileTree) (o : Output) : Except RunError (Text × FileTree) :=
  match a.output with
  | .none => .ok (o.text, tree)
  | some target =>
    let path := outputPath tree target o
    match tree.write path o.text with
    | .ok tree => .ok ([], tree)
    | .error cause => .error (.write path cause)

/-- What comes of one pass with the settings and the context. -/
def generate (a : Arguments) (tree : FileTree) (c : Config) (context : Context) : Outcome :=
  let (output, _) := renderOutput c context (a.readSources tree)
  match a.emit tree output with
  | .error e => ⟨[], tree, some e⟩
  | .ok (printed, tree) => ⟨printed, tree, if output.failed then some .generation else .none⟩

/-- What comes of a command line. -/
def run (a : Arguments) (tree : FileTree) : Outcome :=
  match a.loadConfig tree with
  | .error e => ⟨[], tree, some (.settings e)⟩
  | .ok c =>
    match a.loadContext tree with
    | .error e => ⟨[], tree, some (.save e)⟩
    | .ok (context, tree) => a.generate tree c context

end Arguments

end DesignTokens
