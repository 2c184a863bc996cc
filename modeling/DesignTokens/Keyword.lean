import DesignTokens.Text.Case

/-!
The names of standard properties, looked up without regard to case: a set holds the small forms of
its names, and a name is in it when its own small form is. The names in common use are built in.
-/

namespace DesignTokens

/-- The small forms of the names of a set, each once. -/
structure KeywordSet where
  names : List Text
  deriving DecidableEq

/-- The properties in common use. -/
def commonProperties : List Text :=
  ["align-content", "align-items", "align-self", "animation", "animation-delay",
    "animation-direction", "animation-duration", "animation-fill-mode",
    "animation-iteration-count", "animation-name", "animation-play-state",
    "animation-timing-function", "backface-visibility", "background", "background-attachment",
    "background-blend-mode", "background-clip", "background-color", "background-image",
    "background-origin", "background-position", "background-repeat", "background-size", "border",
    "border-bottom", "border-bottom-color", "border-bottom-left-radius",
    "border-bottom-right-radius", "border-bottom-style", "border-bottom-width", "border-collapse",
    "border-color", "border-image", "border-image-outset", "border-image-repeat",
    "border-image-slice", "border-image-source", "border-image-width", "border-left",
    "border-left-color", "border-left-style", "border-left-width", "border-radius", "border-right",
    "border-right-color", "border-right-style", "border-right-width", "border-spacing",
    "border-style", "border-top", "border-top-color", "border-top-left-radius",
    "border-top-right-radius", "border-top-style", "border-top-width", "border-width", "bottom",
    "box-shadow", "box-sizing", "caption-side", "clear", "clip", "color", "column-count",
    "column-fill", "column-gap", "column-rule", "column-rule-color", "column-rule-style",
    "column-rule-width", "column-span", "column-width", "columns", "content", "counter-increment",
    "counter-reset", "cursor", "direction", "display", "empty-cells", "filter", "flex",
    "flex-basis", "flex-direction", "flex-flow", "flex-grow", "flex-shrink", "flex-wrap", "float",
    "font", "font-family", "font-size", "font-size-adjust", "font-stretch", "font-style",
    "font-variant", "font-weight", "gap", "grid", "grid-area", "grid-auto-columns",
    "grid-auto-flow", "grid-auto-rows", "grid-column", "grid-column-end", "grid-column-gap",
    "grid-column-start", "grid-gap", "grid-row", "grid-row-end", "grid-row-gap", "grid-row-start",
    "grid-template", "grid-template-areas", "grid-template-columns", "grid-template-rows",
    "height", "justify-content", "left", "letter-spacing", "line-height", "list-style",
    "list-style-image", "list-style-position", "list-style-type", "margin", "margin-bottom",
    "margin-left", "margin-right", "margin-top", "max-height", "max-width", "min-height",
    "min-width", "object-fit", "object-position", "opacity", "order", "outline", "outline-color",
    "outline-offset", "outline-style", "outline-width", "overflow", "overflow-x", "overflow-y",
    "padding", "padding-bottom", "padding-left", "padding-right", "padding-top",
    "page-break-after", "page-break-before", "page-break-inside", "perspective",
    "perspective-origin", "pointer-events", "position", "quotes", "resize", "right", "tab-size",
    "table-layout", "text-align", "text-align-last", "text-decoration", "text-decoration-color",
    "text-decoration-line", "text-decoration-style", "text-indent", "text-justify",
    "text-overflow", "text-shadow", "text-transform", "top", "transform", "transform-origin",
    "transform-style", "transition", "transition-delay", "transition-duration",
    "transition-property", "transition-timing-function", "vertical-align", "visibility",
    "white-space", "width", "word-break", "word-spacing", "word-wrap", "writing-mode",
    "z-index"].map String.toList

/-- The names that stand for a pair of sides and are accepted whatever the set holds. -/
def directionalShorthands : List Text :=
  ["padding-horizontal", "padding-vertical", "margin-horizontal", "margin-vertical"]

/-- Whether a name is one of the directional shorthands, in any case. -/
def isDirectionalShorthand (name : Text) : Bool := directionalShorthands.any (·.sameName name)

namespace KeywordSet

/-- The set of the given names. -/
def ofNames (names : List Text) : KeywordSet := ⟨(names.map Text.lower).eraseDups⟩

/-- The set of the properties in common use. -/
def common : KeywordSet := ofNames commonProperties

/-- Whether the set holds a name, in any case. -/
def contains (s : KeywordSet) (name : Text) : Bool := s.names.contains name.lower

/-- How many names the set holds. -/
def size (s : KeywordSet) : Nat := s.names.length

/-- Whether two sets hold the same names. -/
def sameAs (a b : KeywordSet) : Bool :=
  a.names.all b.names.contains && b.names.all a.names.contains

end KeywordSet

end DesignTokens
