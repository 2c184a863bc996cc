import DesignTokens.Json.Number
import DesignTokens.Text.Ascii

/-!
The lexemes of a written document: brackets, commas, colons, words, numbers and quoted texts. One
walk over the characters finds them, carrying what it is in the middle of:

    between ──letter, digit, sign──▶ word     (ends at any other character)
       │ "                            escape ──u──▶ hex (four digits)
       └──▶ quoted ──────\──────────▶   │
              ▲─────────────────────────┘

Escapes of code units are kept as units here, since two of them may spell one character.
-/

namespace DesignTokens

/-- A character of a quoted text, or a code unit that was spelled by its number. -/
inductive QuotedPart where
  | char (c : Char)
  | unit (n : Nat)
  deriving DecidableEq

/-- A lexeme of a written document. -/
inductive Lexeme where
  | openArray | closeArray | openObject | closeObject | comma | colon
  | null
  | bool (value : Bool)
  | number (text : NumberText)
  | quoted (parts : List QuotedPart)
  deriving DecidableEq

namespace Lexeme

/-- What the walk is in the middle of; gathered characters are held last first. -/
inductive Mode where
  | between
  | word (gathered : Text)
  | quoted (gathered : List QuotedPart)
  | escape (gathered : List QuotedPart)
  | hex (gathered : List QuotedPart) (digits value : Nat)

/-- The characters of words and numbers. -/
def isWordPart (c : Char) : Bool :=
  isDigit c || ('a' ≤ c && c ≤ 'z') || ('A' ≤ c && c ≤ 'Z') || c == '+' || c == '-' || c == '.'

/-- The lexeme that a whole word is. -/
def ofWord? (word : Text) : Option Lexeme :=
  if word = "null".toList then some .null
  else if word = "true".toList then some (.bool true)
  else if word = "false".toList then some (.bool false)
  else (NumberText.read? word).map .number

/-- The lexeme that a bracket, comma or colon is. -/
def ofMark? (c : Char) : Option Lexeme :=
  match c with
  | '[' => some .openArray
  | ']' => some .closeArray
  | '{' => some .openObject
  | '}' => some .closeObject
  | ',' => some .comma
  | ':' => some .colon
  | _ => none

/-- The character that a one-letter escape spells. -/
def escaped? (c : Char) : Option Char :=
  match c with
  | '"' => some '"'
  | '\\' => some '\\'
  | '/' => some '/'
  | 'b' => some '\x08'
  | 'f' => some '\x0c'
  | 'n' => some '\n'
  | 'r' => some '\r'
  | 't' => some '\t'
  | _ => none

/-- The walk in the middle of a text: the lexemes found so far, last first, and what it is in the
middle of. -/
structure Walk where
  found : List Lexeme
  mode : Mode

/-- A character between lexemes: it is a lexeme by itself, begins one, or is passed over. -/
def Walk.start? (found : List Lexeme) (c : Char) : Option Walk :=
  if c = ' ' || c = '\t' || c = '\n' || c = '\r' then some ⟨found, .between⟩
  else if c = '"' then some ⟨found, .quoted []⟩
  else if isWordPart c then some ⟨found, .word [c]⟩
  else (ofMark? c).map fun l => ⟨l :: found, .between⟩

/-- One character further. -/
def Walk.step? (w : Walk) (c : Char) : Option Walk :=
  match w.mode with
  | .between => start? w.found c
  | .word gathered =>
    if isWordPart c then some ⟨w.found, .word (c :: gathered)⟩
    else (ofWord? gathered.reverse).bind fun l => start? (l :: w.found) c
  | .quoted gathered =>
    if c = '"' then some ⟨.quoted gathered.reverse :: w.found, .between⟩
    else if c = '\\' then some ⟨w.found, .escape gathered⟩
    else if c.toNat < 0x20 then none
    else some ⟨w.found, .quoted (.char c :: gathered)⟩
  | .escape gathered =>
    if c = 'u' then some ⟨w.found, .hex gathered 0 0⟩
    else (escaped? c).map fun e => ⟨w.found, .quoted (.char e :: gathered)⟩
  | .hex gathered digits value =>
    (hexValue? c).map fun h =>
      if digits = 3 then ⟨w.found, .quoted (.unit (16 * value + h) :: gathered)⟩
      else ⟨w.found, .hex gathered (digits + 1) (16 * value + h)⟩

/-- The lexemes in order, if the text may end here. -/
def Walk.finish? (w : Walk) : Option (List Lexeme) :=
  match w.mode with
  | .between => some w.found.reverse
  | .word gathered => (ofWord? gathered.reverse).map fun l => (l :: w.found).reverse
  | _ => none

/-- The lexemes of a text. -/
def scan? (t : Text) : Option (List Lexeme) :=
  (t.foldlM Walk.step? ⟨[], .between⟩).bind Walk.finish?

end Lexeme

end DesignTokens
