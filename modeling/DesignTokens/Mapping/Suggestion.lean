import DesignTokens.Text.Case

/-!
Guesses at the standard properties behind a name that is none. The first rule whose words all occur
in the name, compared in small letters, gives the targets; a name with `horizontal` or `vertical` in
it gives two, with the side in the place of that word.
-/

namespace DesignTokens

/-- The words that a name has to hold, and the targets they suggest. -/
def suggestionRules : List (List Text × List Text) :=
  [(["padding-horizontal"], ["padding-left", "padding-right"]),
    (["padding-vertical"], ["padding-top", "padding-bottom"]),
    (["margin-horizontal"], ["margin-left", "margin-right"]),
    (["margin-vertical"], ["margin-top", "margin-bottom"]),
    (["border", "radius"], ["border-radius"]),
    (["height"], ["height"]),
    (["width"], ["width"]),
    (["gap"], ["gap"])]

/-- The words for an axis, and the two sides that replace each of them. -/
def axisRules : List (Text × List Text) :=
  [("horizontal", ["left", "right"]), ("vertical", ["top", "bottom"])]

/-- The targets that the two sides of an axis suggest for a name in small letters. -/
def suggestSides (name : Text) : List Text :=
  match axisRules.find? (Text.includes ·.1 name) with
  | some (axis, sides) => sides.map (Text.replaceFirst axis [] name ++ ·)
  | none => []

/-- The standard properties that a name may stand for. -/
def suggest (name : Text) : List Text :=
  let name := name.lower
  match suggestionRules.find? (·.1.all (Text.includes · name)) with
  | some (_, targets) => targets
  | none => suggestSides name

end DesignTokens
