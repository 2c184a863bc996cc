import DesignTokens.Config.Basic
import DesignTokens.Json.Draft

/-!
Inputs of a pass and what can keep a pass from being made. An input whose text is no document is
kept without one: a class pass leaves it out, unless it is the only input, and a pass that needs
just one input fails if it is that one.
-/

namespace DesignTokens

/-- An input: a name, and its document if its text is one. -/
structure Source where
  name : Text
  document : Option Json

/-- The input with a text. -/
def Source.ofText (name text : Text) : Source := ⟨name, Json.parse? text⟩

/-- Why a pass cannot be made. -/
inductive RenderError where
  | config (error : ConfigError)
  | noInput
  | defaultOutOfRange (index count : Nat)
  deriving DecidableEq

/-- The wording of the error. -/
def RenderError.message : RenderError → Text
  | .config e => e.message
  | .noInput => "no input document to convert"
  | .defaultOutOfRange index count =>
    "default file index " ++ natText index ++ " is out of range (" ++ natText count ++ " files)"

/-- The index of the default input, if there is an input there. -/
def defaultIndex (c : Config) (sources : List Source) : Except RenderError Nat :=
  if sources.isEmpty then .error .noInput
  else if sources.length ≤ c.defaultFile.toNat then
    .error (.defaultOutOfRange c.defaultFile.toNat sources.length)
  else .ok c.defaultFile.toNat

/-- The document of the input at an index. -/
def documentAt (sources : List Source) (index : Nat) : Option Json :=
  sources[index]?.bind Source.document

end DesignTokens
