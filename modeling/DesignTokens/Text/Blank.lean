import DesignTokens.Text.Basic

/-!
White space and trimming. The blank characters are the twenty-five of the standard's white-space
property, which are more than the six that core's `Char.isWhitespace` knows.
-/

namespace DesignTokens

/-- The white-space property: tab to carriage return, space, and the wider spaces and separators. -/
def isBlank (c : Char) : Bool :=
  let n := c.toNat
  (9 ≤ n && n ≤ 13) || n == 0x20 || n == 0x85 || n == 0xA0 || n == 0x1680 ||
    (0x2000 ≤ n && n ≤ 0x200A) || n == 0x2028 || n == 0x2029 || n == 0x202F || n == 0x205F ||
    n == 0x3000

namespace Text

/-- The text without the blanks at its front. -/
def trimStart (t : Text) : Text := t.dropWhile isBlank

/-- The text without the blanks at its end. -/
def trimEnd (t : Text) : Text := (t.reverse.dropWhile isBlank).reverse

/-- The text without the blanks at either end. -/
def trim (t : Text) : Text := trimEnd (trimStart t)

/-- Whether the text has no character but blanks. -/
def isAllBlank (t : Text) : Bool := t.all isBlank

/-- Each run of blanks becomes one `fresh`, wherever it stands; the flag says that the run the text
starts in has been replaced already. -/
def replaceBlanks (fresh : Text) : Bool → Text → Text
  | _, [] => []
  | inRun, c :: rest =>
    if isBlank c then (if inRun then [] else fresh) ++ replaceBlanks fresh true rest
    else c :: replaceBlanks fresh false rest

end Text

end DesignTokens
