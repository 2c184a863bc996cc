import DesignTokens.Css.ClassBlock
import DesignTokens.Css.Comment
import DesignTokens.Css.Theme
import DesignTokens.Css.Width
import DesignTokens.Render.Source

/-!
Class sheets. A single input gives its rules. Several inputs give a header, the rules of the default
input, and for every other input in turn a section that wraps its rules in a media query or a
theme's selector. The mapper is handed on from document to document, the default one first.
-/

namespace DesignTokens

/-- The first line of a sheet for several inputs. -/
def sheetHeader : Responsive → Text
  | .resolution => "/* Resolution-responsive CSS */\n\n"
  | .theme => "/* Theme-responsive CSS */\n\n"

/-- What the comment above the default rules calls the default input. -/
def baseLabel (c : Config) (variants : List FileVariant) (index : Nat) : Text :=
  match c.responsive with
  | .resolution => (WidthRange.derive variants index).label
  | .theme => commentText (themeLabel index (variants[index]?.getD .blank))

/-- The rules of the default input under their comment. -/
def baseSection (label : Text) (block : ClassBlock) : Text :=
  "/* Base styles - " ++ label ++ " */\n" ++ block.write []

/-- The section of an input by its range of widths. -/
def widthSection (range : WidthRange) (name : Text) (block : ClassBlock) : Text :=
  match range.query? with
  | none => "\n/* " ++ commentText name ++ ": width range needs manual resolution */\n"
  | some query =>
    "\n" ++ query ++ " \x7b\n  /* " ++ commentText name ++ " - " ++ range.label ++ " */\n" ++
      block.write "  " ++ "\x7d\n"

/-- The section of an input by its theme. -/
def themeSection (label : Text) (block : ClassBlock) : Text :=
  "\n/* Theme: " ++ commentText label ++ " */\n" ++ themeSelector label ++ " \x7b\n" ++
    block.write "  " ++ "\x7d\n"

/-- The section of the input at an index. -/
def inputSection (c : Config) (variants : List FileVariant) (index : Nat) (name : Text)
    (block : ClassBlock) : Text :=
  match c.responsive with
  | .resolution => widthSection (WidthRange.derive variants index) name block
  | .theme => themeSection (themeLabel index (variants[index]?.getD .blank)) block

/-- The sections of the inputs from an index on, the default input left out, and the context after
them. -/
def sectionsFrom (c : Config) (variants : List FileVariant) (default : Nat) :
    Nat → Context → List Source → Text × Context
  | _, context, [] => ([], context)
  | index, context, source :: rest =>
    match if index = default then none else source.document with
    | none => sectionsFrom c variants default (index + 1) context rest
    | some document =>
      let (block, context) := ClassBlock.ofDocument c context document
      let (more, context) := sectionsFrom c variants default (index + 1) context rest
      (inputSection c variants index source.name block ++ more, context)

/-- A declaration in a rule of a single input. -/
def singleLine (declaration : Text × Text) : Text :=
  "  " ++ declaration.1 ++ ": " ++ declaration.2 ++ ";\n"

/-- A rule of a single input, with an empty line behind it. -/
def singleRule (entry : Text × Declarations) : Text :=
  "." ++ entry.1 ++ " \x7b\n" ++ entry.2.flatMap singleLine ++ "\x7d\n\n"

/-- The rules of a single input. -/
def singleSheet (block : ClassBlock) : Text := block.flatMap singleRule

/-- The sheet of several inputs, and the context after it. -/
def responsiveSheet (c : Config) (context : Context) (sources : List Source) (default : Nat) :
    Text × Context :=
  let variants := c.fileVariants sources.length
  let (base, context) := match documentAt sources default with
    | none => ([], context)
    | some document =>
      let (block, context) := ClassBlock.ofDocument c context document
      (baseSection (baseLabel c variants default) block, context)
  let (more, context) := sectionsFrom c variants default 0 context sources
  (sheetHeader c.responsive ++ base ++ more, context)

/-- The class sheet of the inputs, and the context after it. -/
def classSheet (c : Config) (context : Context) (sources : List Source) :
    Except RenderError (Text × Context) := do
  let default ← defaultIndex c sources
  if sources.length = 1 then
    match documentAt sources default with
    | none => .error .noInput
    | some document =>
      let (block, context) := ClassBlock.ofDocument c context document
      .ok (singleSheet block, context)
  else .ok (responsiveSheet c context sources default)

end DesignTokens
