import DesignTokens.Mapping.Basic
import DesignTokens.Naming
import DesignTokens.Text.Blank
import DesignTokens.Text.Word

/-!
Reading style sheets from a distance. A rule is a selector, a body in braces and nothing that nests;
a declaration is a name, a colon and a value up to a semicolon. Matches are looked for from the
left, take as much as they can and do not overlap; comments and braces in strings are not
understood.

Detection lists the names declared in rules that nothing is known of. Expansion rewrites every
declaration of a mapped name, wherever it stands, into one declaration per target: it looks for the
name behind the start of the text or a character that no name holds, a colon, a value, and a
semicolon or closing brace.
-/

namespace DesignTokens

/-! ### Rules and declarations -/

/-- The bodies of the rules in what follows: `run` says whether anything but braces lies directly
before, and `body` holds, last character first, what follows an opening brace behind such a run. -/
def bodiesFrom (run : Bool) (body : Option Text) : Text → List Text
  | [] => []
  | '{' :: rest => bodiesFrom false (if run then some [] else none) rest
  | '}' :: rest =>
    match body with
    | some body => Text.trimStart body.reverse :: bodiesFrom false none rest
    | none => bodiesFrom false none rest
  | c :: rest => bodiesFrom true (body.map (c :: ·)) rest

/-- The bodies of the rules of a style sheet, without the blanks at their front. -/
def ruleBodies (css : Text) : List Text := bodiesFrom false none css

/-- What follows a declaration's colon, past its value and the semicolon behind it, if the value is
not empty. -/
def pastValue? (t : Text) : Option Text :=
  if (t.takeWhile (· != ';')).isEmpty then none else some ((t.dropWhile (· != ';')).drop 1)

/-- What follows the declaration that begins behind a name, if one does. -/
def pastDeclaration? (t : Text) : Option Text :=
  match Text.trimStart t with
  | ':' :: rest => pastValue? rest
  | _ => none

/-- The names declared in a body. The fuel bounds the number of steps; each takes at least one
character. -/
def declaredNamesFrom : Nat → Text → List Text
  | 0, _ => []
  | _ + 1, [] => []
  | fuel + 1, c :: rest =>
    if isNameChar c then
      let name := c :: rest.takeWhile isNameChar
      let rest := rest.dropWhile isNameChar
      match pastDeclaration? rest with
      | some rest => name :: declaredNamesFrom fuel rest
      | none => declaredNamesFrom fuel rest
    else declaredNamesFrom fuel rest

/-- The names declared in a body, in order. -/
def declaredNames (body : Text) : List Text := declaredNamesFrom body.length body

/-- The declared names that the keywords do not hold, that are no custom properties and that no
mapping has as its name, each once. -/
def detectCustom (keywords : KeywordSet) (mappings : List Mapping) (css : Text) : List Text :=
  (((ruleBodies css).flatMap declaredNames).filter fun name =>
    !keywords.contains name && !marker.isPrefixOf name && !mappings.any (·.name == name)).eraseDups

/-! ### Expansion -/

/-- A declaration behind its name: the value without blanks at its ends, the character that ends it,
and what follows. -/
def readValue? (t : Text) : Option (Text × Char × Text) :=
  match Text.trimStart t with
  | ':' :: rest =>
    let value := rest.takeWhile fun c => c != ';' && c != '}'
    match rest.dropWhile fun c => c != ';' && c != '}' with
    | stop :: rest => if value.isEmpty then none else some (Text.trim value, stop, rest)
    | [] => none
  | _ => none

/-- A declaration of a name at the front of a text. -/
def readDeclaration? (name t : Text) : Option (Text × Char × Text) :=
  (Text.dropHead? name t).bind readValue?

/-- One declaration per target with the value; the last ends as the declaration did that they take
the place of. -/
def spreadValue (targets : List Text) (value : Text) (stop : Char) : Text :=
  Text.join "; " (targets.map fun target => target ++ ": " ++ value) ++ [stop]

/-- The text with the declarations of a name expanded behind every character that no name holds. The
fuel bounds the number of steps; each takes at least one character. -/
def expandFrom (m : Mapping) : Nat → Text → Text
  | 0, t => t
  | _ + 1, [] => []
  | fuel + 1, c :: rest =>
    match if isNameChar c then none else readDeclaration? m.name rest with
    | some (value, stop, rest) => c :: spreadValue m.targets value stop ++ expandFrom m fuel rest
    | none => c :: expandFrom m fuel rest

/-- The text with the declarations of a mapping's name expanded. -/
def expandMapping (m : Mapping) (css : Text) : Text :=
  match readDeclaration? m.name css with
  | some (value, stop, rest) => spreadValue m.targets value stop ++ expandFrom m rest.length rest
  | none => expandFrom m css.length css

/-- The text with the declarations of all mapped names expanded, one mapping after the other. -/
def expandCustom (mappings : List Mapping) (css : Text) : Text :=
  (mappings.filter Mapping.isMapped).foldl (fun t m => expandMapping m t) css

end DesignTokens
