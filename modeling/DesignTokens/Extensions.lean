import DesignTokens.Json.Basic

/-!
What design tools attach to a token. Of the extensions only one tool's part is read, and of that
only the code syntax: for each platform the literal value to use there. An attachment of another
form reads as no attachment; a list is read as the fields in their order. The value for the web is
preferred to the first platform's, and a value that is empty, null, false or zero is no value.
-/

namespace DesignTokens

/-- The values to use on platforms, in the order in which the platforms were given. -/
abbrev CodeSyntax := Assoc Text Json

/-- The extensions of a token: the one tool's code syntax, if that tool's part is there. -/
structure Extensions where
  figma : Option CodeSyntax

namespace Extensions

/-- The key of the tool whose part is read. -/
def figmaKey : Text := "com.figma"

/-- The key of the values for platforms. -/
def codeSyntaxKey : Text := "codeSyntax"

/-- The platform whose value is preferred. -/
def webPlatform : Text := "web"

/-- The code syntax of a tool's part: an object that holds it or leaves it out, or a list of it. -/
def readFigma? : Json → Option CodeSyntax
  | .object fields =>
    match Assoc.find? codeSyntaxKey fields with
    | none => some []
    | some (.object platforms) => some platforms
    | some _ => none
  | .array [] => some []
  | .array [.object platforms] => some platforms
  | _ => none

/-- The extensions with a tool's part, which may be left out or null. -/
def withFigma? : Option Json → Option Extensions
  | none | some .null => some ⟨none⟩
  | some part => (readFigma? part).map fun platforms => ⟨some platforms⟩

/-- The extensions that a token holds, if it holds any that can be read. -/
def ofNode? : Option Json → Option Extensions
  | some (.object fields) => withFigma? (Assoc.find? figmaKey fields)
  | some (.array []) => withFigma? none
  | some (.array [part]) => withFigma? (some part)
  | _ => none

/-- The code syntax, if it names any platform. -/
def codeSyntax? (e : Extensions) : Option CodeSyntax := e.figma.filter (!·.isEmpty)

/-- Whether a value counts as one: null, false, zero and the empty text do not. -/
def isPresent : Json → Bool
  | .null => false
  | .bool b => b
  | .string t => !t.isEmpty
  | .number n => !n.toDouble.isZero
  | .array _ | .object _ => true

/-- The value for the web if it counts, else the first platform's if that counts. -/
def preferred? (platforms : CodeSyntax) : Option Json :=
  ((Assoc.find? webPlatform platforms).filter isPresent).or
    ((platforms.head?.map Prod.snd).filter isPresent)

end Extensions

end DesignTokens
