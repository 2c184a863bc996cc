import DesignTokens.Keyword

/-!
Property mappings: a name that is no standard property and the standard properties it stands for,
each of them once and in order. Four mappings are there from the start.
-/

namespace DesignTokens

/-- A name, the properties it stands for, and a note. -/
structure Mapping where
  name : Text
  targets : List Text
  description : Option Text
  deriving DecidableEq

namespace Mapping

/-- The mapping of a name to targets, of which repeated ones count once. -/
def of (name : Text) (targets : List Text) (description : Option Text) : Mapping :=
  ⟨name, targets.eraseDups, description⟩

/-- Whether the name stands for anything. -/
def isMapped (m : Mapping) : Bool := !m.targets.isEmpty

/-- The directional shorthands with the two sides that each stands for. -/
def defaults : List Mapping :=
  [of "padding-horizontal" ["padding-left", "padding-right"] none,
    of "padding-vertical" ["padding-top", "padding-bottom"] none,
    of "margin-horizontal" ["margin-left", "margin-right"] none,
    of "margin-vertical" ["margin-top", "margin-bottom"] none]

end Mapping

end DesignTokens
