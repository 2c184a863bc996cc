import DesignTokens.Css.Variables
import DesignTokens.Render.Classes

/-!
Generation passes. A pass checks the settings, makes the text that the mode asks for, and hands back
the context with the names it had to guess. A pass that cannot be made leaves the context alone and
gives a comment that says why; every output knows the file it belongs in.
-/

namespace DesignTokens

/-- The text of the tokens of one document, for the modes that need only one. -/
def documentText (c : Config) (tokens : List Token) : Text :=
  match c.mode, c.tokenFormat with
  | .references, _ => referringProperties c tokens
  | _, .customProperties => customProperties c tokens
  | _, .nestedJson => nestedJson c tokens

/-- One pass: its text and the context after it, or why it cannot be made. -/
def tryRender (c : Config) (context : Context) (sources : List Source) :
    Except RenderError (Text × Context) :=
  match c.fault with
  | some e => .error (.config e)
  | none =>
    match c.mode with
    | .classes => classSheet c context sources
    | _ => do
      let default ← defaultIndex c sources
      match documentAt sources default with
      | none => .error .noInput
      | some document =>
        .ok (documentText c (Token.extract c.naming context.keywords document), context)

/-- The comment that stands for a pass that cannot be made. -/
def errorComment (e : RenderError) : Text :=
  "/* Error while generating output: " ++ commentText e.message ++ " */"

/-- The text of a pass, whatever comes of it, and the context after it. -/
def render (c : Config) (context : Context) (sources : List Source) : Text × Context :=
  match tryRender c context sources with
  | .ok result => result
  | .error e => (errorComment e, context)

/-- The file that a text is saved in. -/
structure Artifact where
  fileName : Text
  mime : Text
  deriving DecidableEq

namespace Artifact

/-- Class rules. -/
def classes : Artifact := ⟨"generated-styles.css", "text/css"⟩

/-- Custom properties. -/
def properties : Artifact := ⟨"token-variables.css", "text/css"⟩

/-- A nested object. -/
def json : Artifact := ⟨"tokens.json", "application/json"⟩

/-- Custom properties that refer to others. -/
def references : Artifact := ⟨"token-references.css", "text/css"⟩

/-- A note on a pass that cannot be made. -/
def fallback : Artifact := ⟨"generated-output.txt", "text/plain"⟩

/-- The file for what the settings ask for. -/
def ofConfig (c : Config) : Artifact :=
  match c.mode, c.tokenFormat with
  | .classes, _ => classes
  | .properties, .customProperties => properties
  | .properties, .nestedJson => json
  | .references, _ => references

end Artifact

/-- The text of a pass and the file it belongs in. -/
structure Output where
  text : Text
  artifact : Artifact
  failed : Bool
  deriving DecidableEq

/-- The output of a pass, and the context after it. -/
def renderOutput (c : Config) (context : Context) (sources : List Source) : Output × Context :=
  match tryRender c context sources with
  | .ok (text, context) => (⟨text, Artifact.ofConfig c, false⟩, context)
  | .error e => (⟨errorComment e, Artifact.fallback, true⟩, context)

end DesignTokens
