import DesignTokens.Assoc
import DesignTokens.Mapping.Registry
import DesignTokens.Mapping.Suggestion
import DesignTokens.Property

/-!
Turning property names into output names. A standard name is used as it is; a registered one is
replaced by its targets; a name that is valid for another reason is used as it is; any other name is
remembered with a guess at its targets, until someone confirms or removes it:

            standard ──▶ valid
    name ── mapped ────▶ custom targets
            valid ─────▶ valid
            else ──────▶ detected targets   (kept in `pending`)
-/

namespace DesignTokens

/-- What became of a name. -/
inductive Resolution where
  | valid
  | custom (targets : List Text)
  | detected (targets : List Text)
  deriving DecidableEq

/-- The output names for a name; without targets it stands for itself. -/
def Resolution.outputs (r : Resolution) (name : Text) : List Text :=
  match r with
  | .valid => [name]
  | .custom targets | .detected targets => if targets.isEmpty then [name] else targets

/-- Confirmed mappings, and the guesses that wait for confirmation. -/
structure Mapper where
  registry : Registry
  pending : Assoc Text (List Text)
  deriving DecidableEq

namespace Mapper

/-- The mapper of a registry, with nothing pending. -/
def ofRegistry (r : Registry) : Mapper := ⟨r, []⟩

/-- The pending guesses without those for a name, in any case. -/
def forget (pending : Assoc Text (List Text)) (name : Text) : Assoc Text (List Text) :=
  pending.filter fun p => !p.1.sameName name

/-- Registers a mapping and drops the guesses for its name. -/
def update (m : Mapper) (name : Text) (targets : List Text) (description : Option Text) : Mapper :=
  ⟨m.registry.upsert (Mapping.of name targets description), forget m.pending name⟩

/-- Removes the mapping of a name and the guesses for it; the mapping is handed back. -/
def remove (m : Mapper) (name : Text) : Option Mapping × Mapper :=
  ((m.registry.remove name).1, ⟨(m.registry.remove name).2, forget m.pending name⟩)

/-- Whether some guess has targets. -/
def needsConfirmation (m : Mapper) : Bool := m.pending.any (!·.2.isEmpty)

/-- What becomes of a name, and the mapper that remembers it. -/
def resolve (m : Mapper) (keywords : KeywordSet) (name : Text) : Resolution × Mapper :=
  if isStandard keywords name then (.valid, m)
  else match (m.registry.find? name).filter Mapping.isMapped with
    | some mapping => (.custom mapping.targets, m)
    | none =>
      if isValid keywords m.registry.entries name then (.valid, m)
      else match Assoc.find? name m.pending with
        | some targets => (.detected targets, m)
        | none =>
          let targets := suggest name
          (.detected targets, { m with pending := Assoc.insert name targets m.pending })

end Mapper

/-! ### Declarations -/

/-- Declarations in the order in which their properties were first written. -/
abbrev Declarations := Assoc Text Text

/-- One name replaced by its targets: each gets the value the name had, and the name goes. -/
def replaceDeclaration (declarations : Declarations) (name : Text) (targets : List Text) :
    Declarations :=
  if targets.isEmpty then declarations
  else match Assoc.find? name declarations with
    | some value => targets.foldl (fun m target => Assoc.insert target value m)
        (Assoc.erase name declarations)
    | none => declarations

/-- The declarations with each name that has targets replaced by them, one name after the other. -/
def applyMappings (declarations : Declarations) (invalid : Assoc Text (List Text)) : Declarations :=
  invalid.foldl (fun m p => replaceDeclaration m p.1 p.2) declarations

/-- The declarations with the pending guesses applied. -/
def Mapper.apply (m : Mapper) (declarations : Declarations) : Declarations :=
  applyMappings declarations m.pending

end DesignTokens
