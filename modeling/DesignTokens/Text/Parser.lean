import DesignTokens.Text.Basic

/-!
Parsers: a value from the front of a text and what is left of the text, or failure. A parser that
fails has taken nothing, so a second one may be tried in its place. Loops carry fuel that the length
of the text bounds.
-/

namespace DesignTokens

/-- A value from the front of a text, and what is left. -/
abbrev Parser := StateT Text Option

namespace Parser

/-- The parser run on a whole text, of which nothing may be left. -/
def whole? (p : Parser α) (t : Text) : Option α :=
  match p.run t with
  | some (a, []) => some a
  | _ => none

/-- The next character. -/
def anyChar : Parser Char := do
  match ← get with
  | c :: rest => set rest; return c
  | [] => failure

/-- A character of a kind. -/
def charOf (kind : Char → Bool) : Parser Char := do
  let c ← anyChar
  if kind c then return c else failure

/-- One particular character. -/
def char (c : Char) : Parser Unit := do
  let _ ← charOf (· == c)

/-- One particular character, if it comes next. -/
def char? (c : Char) : Parser Bool := do
  match ← get with
  | d :: rest => if d = c then set rest; return true else return false
  | [] => return false

/-- A particular text. -/
def word (w : Text) : Parser Unit := do
  match Text.dropHead? w (← get) with
  | some rest => set rest
  | none => failure

/-- The characters of a kind at the front. -/
def takeWhile (kind : Char → Bool) : Parser Text := modifyGet fun t => (t.span kind)

/-- The characters of a kind at the front, at least one. -/
def takeSome (kind : Char → Bool) : Parser Text := do
  let taken ← takeWhile kind
  if taken.isEmpty then failure else return taken

/-- A value, if there is one. -/
def optional? (p : Parser α) : Parser (Option α) := (some <$> p) <|> pure none

/-- As many as were asked for. -/
def times (p : Parser α) : Nat → Parser (List α)
  | 0 => return []
  | n + 1 => do
    let a ← p
    return a :: (← times p n)

/-- As many as there are, up to the fuel. -/
def manyUpTo (p : Parser α) : Nat → Parser (List α)
  | 0 => return []
  | fuel + 1 => do
    match ← optional? p with
    | some a => return a :: (← manyUpTo p fuel)
    | none => return []

/-- As many as there are. -/
def many (p : Parser α) : Parser (List α) := do manyUpTo p (← get).length

/-- Values with a separator between neighbours, at least one. -/
def sepBy (p : Parser α) (separator : Parser Unit) : Parser (List α) := do
  let a ← p
  return a :: (← many (separator *> p))

/-- Whether the end has been reached. -/
def atEnd : Parser Bool := return (← get).isEmpty

end Parser

end DesignTokens
