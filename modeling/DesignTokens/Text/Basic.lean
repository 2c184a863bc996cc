/-!
Text is handled as the list of its characters: every operation is then a recursion on that list,
and every law about it an induction. This module holds the operations that need no table:
splitting at a character, joining with a separator, searching for a part and replacing it.
Splitting and joining undo each other (`join_splitOn`).
-/

namespace DesignTokens

/-- Text is the list of its characters. -/
abbrev Text := List Char

instance : Coe String Text := ⟨String.toList⟩

namespace Text

/-- The pieces between the occurrences of `sep`; `n` occurrences give `n + 1` pieces. -/
def splitOn (sep : Char) : Text → List Text
  | [] => [[]]
  | c :: rest =>
    if c = sep then [] :: splitOn sep rest
    else match splitOn sep rest with
      | [] => [[c]]
      | piece :: pieces => (c :: piece) :: pieces

/-- The text before the first `sep` and the text after it, if there is one. -/
def cut? (sep : Char) : Text → Option (Text × Text)
  | [] => none
  | c :: rest =>
    if c = sep then some ([], rest)
    else (cut? sep rest).map fun (before, after) => (c :: before, after)

/-- The pieces one after the other with `sep` between neighbours. -/
def join (sep : Text) : List Text → Text
  | [] => []
  | [piece] => piece
  | piece :: pieces => piece ++ sep ++ join sep pieces

/-- Whether `part` occurs somewhere in the text. -/
def includes (part : Text) : Text → Bool
  | [] => part.isEmpty
  | c :: rest => part.isPrefixOf (c :: rest) || includes part rest

/-- The first occurrence of `part` replaced by `fresh`; the text itself if there is none. -/
def replaceFirst (part fresh : Text) : Text → Text
  | [] => if part.isEmpty then fresh else []
  | c :: rest =>
    if part.isPrefixOf (c :: rest) then fresh ++ (c :: rest).drop part.length
    else c :: replaceFirst part fresh rest

/-- What is left of the text when `head` has been taken off its front, if it starts with it. -/
def dropHead? (head text : Text) : Option Text :=
  if head.isPrefixOf text then some (text.drop head.length) else none

/-! ### Splitting and joining -/

theorem splitOn_ne_nil (sep : Char) (t : Text) : splitOn sep t ≠ [] := by
  cases t with
  | nil => simp [splitOn]
  | cons c rest =>
    unfold splitOn
    split
    · simp
    · split <;> simp

theorem join_cons_cons (sep p q : Text) (ps : List Text) :
    join sep (p :: q :: ps) = p ++ sep ++ join sep (q :: ps) := rfl

/-- Joining the pieces with the character they were split on gives the text back. -/
theorem join_splitOn (sep : Char) (t : Text) : join [sep] (splitOn sep t) = t := by
  induction t with
  | nil => rfl
  | cons c rest ih =>
    unfold splitOn
    split
    · next h =>
      subst h
      cases hs : splitOn c rest with
      | nil => exact absurd hs (splitOn_ne_nil c rest)
      | cons p ps => rw [join_cons_cons, ← hs, ih]; rfl
    · cases hs : splitOn sep rest with
      | nil => exact absurd hs (splitOn_ne_nil sep rest)
      | cons p ps =>
        rw [hs] at ih
        cases ps with
        | nil => simpa [join] using ih
        | cons q qs => rw [join_cons_cons] at ih ⊢; simp [← ih]

end Text

end DesignTokens
