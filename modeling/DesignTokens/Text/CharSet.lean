import DesignTokens.Text.Basic

/-!
Sets of characters as the list of their bounds. The list `[a, b, c, d]` holds the characters from
`a` up to but not including `b`, and from `c` up to but not including `d`: one walk along the list
decides membership, and every table of a character property is such a list.
-/

namespace DesignTokens

/-- The ascending bounds of the ranges, each range from its first code point to before its end. -/
abbrev CharSet := List Nat

/-- Whether a code point lies in one of the ranges. -/
def CharSet.covers (n : Nat) : CharSet → Bool
  | [] => false
  | [first] => first ≤ n
  | first :: stop :: rest => if n < first then false else n < stop || covers n rest

/-- Whether a character is in the set. -/
def CharSet.has (s : CharSet) (c : Char) : Bool := s.covers c.toNat

end DesignTokens
