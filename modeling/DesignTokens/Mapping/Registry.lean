import DesignTokens.Mapping.Basic

/-!
The registry of confirmed mappings: a finite map whose names are compared without regard to the case
of the letters `a` to `z`. Registering a name that is there replaces its mapping in place, a new one
goes to the end. The four default mappings are put back whenever a registry is made from saved ones,
so they are not saved themselves.
-/

namespace DesignTokens

/-- The confirmed mappings in order. -/
structure Registry where
  entries : List Mapping
  deriving DecidableEq

namespace Registry

/-- No mappings at all. -/
def empty : Registry := ⟨[]⟩

/-- The default mappings. -/
def defaults : Registry := ⟨Mapping.defaults⟩

/-- The mapping of a name, in any case. -/
def find? (r : Registry) (name : Text) : Option Mapping := r.entries.find? (·.name.sameName name)

/-- The entries with `m` in the place of the one of its name, or at the end. -/
def upsertInto (m : Mapping) : List Mapping → List Mapping
  | [] => [m]
  | entry :: rest => if entry.name.sameName m.name then m :: rest else entry :: upsertInto m rest

/-- The registry with a mapping registered. -/
def upsert (r : Registry) (m : Mapping) : Registry := ⟨upsertInto m r.entries⟩

/-- The first entry of a name, and the entries without it. -/
def takeFrom (name : Text) : List Mapping → Option Mapping × List Mapping
  | [] => (none, [])
  | entry :: rest =>
    if entry.name.sameName name then (some entry, rest)
    else ((takeFrom name rest).1, entry :: (takeFrom name rest).2)

/-- The mapping of a name, and the registry without it. -/
def remove (r : Registry) (name : Text) : Option Mapping × Registry :=
  ((takeFrom name r.entries).1, ⟨(takeFrom name r.entries).2⟩)

/-- The default mappings with saved ones registered on top of them. -/
def ofSaved (saved : List Mapping) : Registry := saved.foldl upsert defaults

/-- The mappings worth saving: all but those of the default names. -/
def persistable (r : Registry) : List Mapping :=
  r.entries.filter (!isDirectionalShorthand ·.name)

end Registry

end DesignTokens
