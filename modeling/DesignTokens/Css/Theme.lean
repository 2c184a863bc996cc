import DesignTokens.Config.Basic
import DesignTokens.Text.Kebab
import DesignTokens.Text.Word

/-!
Themes: the label of an input, and the selector of the elements that wear it. Of the label's kebab
case only letters, numbers, dashes and underscores go into the selector.
-/

namespace DesignTokens

/-- The label of an input: its own unless that is blank, else the standard one of its position. -/
def themeLabel (index : Nat) (v : FileVariant) : Text :=
  ((v.label.filter (!Text.isAllBlank ·)).or (FileVariant.standard index).label).getD []

/-- The characters that may stand in the value of a selector. -/
def isSelectorChar (c : Char) : Bool := isAlphanumeric c || c == '-' || c == '_'

/-- The selector of the elements of a theme. -/
def themeSelector (label : Text) : Text :=
  "[data-theme=\"" ++ (Text.kebab label).filter isSelectorChar ++ "\"]"

end DesignTokens
