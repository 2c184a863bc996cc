import DesignTokens.Config.Basic

/-!
The range of screen widths of an input. Widths that are given are the range. Otherwise the range
fills the gap that the other inputs leave: from one past their largest upper width to one below
their smallest lower width. A gap without a width in it cannot be written and is left to the reader.
-/

namespace DesignTokens

/-- A range of widths. -/
inductive WidthRange where
  /-- The bounds that are known. -/
  | bounded (min max : Option UInt32)
  /-- No bound on the input or on another. -/
  | unbounded
  /-- The other inputs leave no room. -/
  | manual
  deriving DecidableEq

namespace WidthRange

/-- The next width, or the largest there is. -/
def succ (w : UInt32) : UInt32 := if w = 0xFFFFFFFF then w else w + 1

/-- The largest of the widths. -/
def largest (ws : List UInt32) : Option UInt32 := ws.max?

/-- The smallest of the widths. -/
def smallest (ws : List UInt32) : Option UInt32 := ws.min?

/-- The gap between a largest upper and a smallest lower width. -/
def between (upper lower : Option UInt32) : WidthRange :=
  match upper.map succ, lower with
  | _, some 0 => .manual
  | none, none => .unbounded
  | some first, some stop => if stop - 1 < first then .manual else .bounded first (some (stop - 1))
  | first, stop => .bounded first (stop.map (· - 1))

/-- The range of the input at an index among the variants of all inputs. -/
def derive (variants : List FileVariant) (index : Nat) : WidthRange :=
  let own := variants[index]?.getD .blank
  if own.hasBounds then .bounded own.minWidth own.maxWidth
  else
    let others := variants.eraseIdx index
    between (largest (others.filterMap (·.maxWidth))) (smallest (others.filterMap (·.minWidth)))

/-- A width in pixels. -/
def pixels (w : UInt32) : Text := natText w.toNat ++ "px"

/-- The media query of the range, if one can be written. -/
def query? : WidthRange → Option Text
  | .bounded (some min) (some max) =>
    some ("@media (min-width: " ++ pixels min ++ ") and (max-width: " ++ pixels max ++ ")")
  | .bounded (some min) none => some ("@media (min-width: " ++ pixels min ++ ")")
  | .bounded none (some max) => some ("@media (max-width: " ++ pixels max ++ ")")
  | .bounded none none | .unbounded => some "@media all"
  | .manual => none

/-- What a comment calls the range. -/
def label : WidthRange → Text
  | .bounded (some min) (some max) => pixels min ++ " - " ++ pixels max
  | .bounded (some min) none => pixels min ++ " and up"
  | .bounded none (some max) => pixels max ++ " and below"
  | .bounded none none | .unbounded => "all widths"
  | .manual => "range needs manual resolution"

end WidthRange

end DesignTokens
