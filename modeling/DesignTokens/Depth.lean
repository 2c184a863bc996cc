import DesignTokens.Decimal.Digits

/-!
Depths: how many trailing keys of a path a name is made of. A depth is written as a count or as
`all`, in any case; a count of zero stands for one.
-/

namespace DesignTokens

/-- How many trailing keys of a path take part in a name. -/
inductive Depth where
  | last (count : UInt64)
  | all
  deriving DecidableEq

namespace Depth

/-- The depth of names that are made of a path's last key. -/
def one : Depth := .last 1

/-- A depth with one in the place of zero. -/
def normalized : Depth → Depth
  | .last count => if count = 0 then one else .last count
  | .all => .all

/-- The word for a depth without limit. -/
def word : Text := "all"

/-- The count, or the word. -/
def write : Depth → Text
  | .last count => natText count.toNat
  | .all => word

/-- The depth that a text stands for. -/
def read? (t : Text) : Option Depth :=
  if t.sameName word then some .all
  else match readNat UInt64.size t with
    | .ok n => some (normalized (.last (UInt64.ofNat n)))
    | .error _ => none

/-- What is said of a text that is no depth. -/
def refusal (t : Text) : Text := "expected a segment count or \"all\", got '" ++ t ++ "'"

/-- The trailing part of a path that a name is made of. -/
def slice (d : Depth) (path : List α) : List α :=
  match d.normalized with
  | .all => path
  | .last count => path.drop (path.length - count.toNat)

end Depth

end DesignTokens
