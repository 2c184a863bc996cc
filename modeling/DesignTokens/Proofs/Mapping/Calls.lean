import DesignTokens.Proofs.Mapping.Registry
import DesignTokens.Proofs.Mapping.Resolution

/-!
Mappers in use. A mapper starts with a registry that is empty, holds the defaults or was saved, and
is then called in any order:

    update   writes one name of the registry, forgets its guesses
    remove   takes one name out,              forgets its guesses
    resolve  leaves the registry alone,       may add a guess

A run of calls keeps the names of the registry apart (`distinct_run`). That is why a removal, which
only takes the first entry it meets, forgets a name for good (`registry_is_finite_map`).
-/

namespace DesignTokens

/-! ### Calls -/

/-- Where a registry comes from. -/
inductive Registry.Origin where
  | empty
  | defaults
  | saved (mappings : List Mapping)

/-- The registry as it comes from there. -/
def Registry.Origin.registry : Origin → Registry
  | .empty => Registry.empty
  | .defaults => Registry.defaults
  | .saved mappings => Registry.ofSaved mappings

theorem Registry.Origin.distinct_registry : ∀ origin : Origin, origin.registry.Distinct
  | .empty => distinct_empty
  | .defaults => distinct_defaults
  | .saved mappings => distinct_ofSaved mappings

namespace Mapper

/-- What a mapper can be asked to do. -/
inductive Call where
  | update (name : Text) (targets : List Text) (description : Option Text)
  | remove (name : Text)
  | resolve (keywords : KeywordSet) (name : Text)

/-- The mapper after a call. -/
def after (m : Mapper) : Call → Mapper
  | .update name targets description => m.update name targets description
  | .remove name => (m.remove name).2
  | .resolve keywords name => (m.resolve keywords name).2

/-- The mapper after calls, one after the other. -/
def run (m : Mapper) (calls : List Call) : Mapper := calls.foldl after m

theorem mem_forget {pending : Assoc Text (List Text)} {name : Text} {p : Text × List Text} :
    p ∈ forget pending name ↔ p ∈ pending ∧ ¬p.1.sameName name := by
  rw [forget, List.mem_filter, Bool.not_eq_true', Bool.eq_false_iff]

@[simp] theorem registry_resolve (m : Mapper) (keywords : KeywordSet) (name : Text) :
    (m.resolve keywords name).2.registry = m.registry := by
  rw [resolve_eq]
  cases m.registry.verdict? keywords name <;> rfl

theorem distinct_after {m : Mapper} (h : m.registry.Distinct) (call : Call) :
    (m.after call).registry.Distinct := by
  cases call with
  | update name targets description => exact h.upsert _
  | remove name => exact h.remove name
  | resolve keywords name => rw [after, registry_resolve]; exact h

theorem distinct_run {m : Mapper} (h : m.registry.Distinct) (calls : List Call) :
    (m.run calls).registry.Distinct :=
  List.foldlRecOn (motive := fun m => m.registry.Distinct) calls after h
    fun _ hm call _ => distinct_after hm call

/-- In every run the registry is a finite map whose keys are names without regard to case: no two
entries share a name; an update changes what is found under its name, in the place where the name
stood or at the end, and a removal hands back what was found and forgets it, each leaving everything
else as it was and where it was; a look-up changes nothing. -/
theorem registry_is_finite_map (origin : Registry.Origin) (calls : List Call) :
    let m := (ofRegistry origin.registry).run calls
    m.registry.Distinct ∧
      (∀ name targets description, ∃ fresh : Mapping,
        fresh.name = name ∧ fresh.description = description ∧
        (∀ t, t ∈ fresh.targets ↔ t ∈ targets) ∧
        (fresh.targets.Pairwise fun a b => targets.idxOf a < targets.idxOf b) ∧
        (∀ other, (m.update name targets description).registry.find? other =
          if other.sameName name then some fresh else m.registry.find? other) ∧
        (m.update name targets description).registry.entries =
          if m.registry.entries.any (·.name.sameName name) then
            m.registry.entries.map fun entry => if entry.name.sameName name then fresh else entry
          else m.registry.entries ++ [fresh]) ∧
      (∀ name, (m.remove name).1 = m.registry.find? name ∧
        (∀ other, (m.remove name).2.registry.find? other =
          if other.sameName name then none else m.registry.find? other) ∧
        (m.remove name).2.registry.entries =
          m.registry.entries.filter (!·.name.sameName name)) ∧
      ∀ keywords name, (m.resolve keywords name).2.registry = m.registry := by
  intro m
  have hd : m.registry.Distinct := distinct_run origin.distinct_registry calls
  refine ⟨hd, fun name targets description => ?_, fun name => ?_, m.registry_resolve⟩
  · refine ⟨Mapping.of name targets description, rfl, rfl, fun _ => List.mem_eraseDups,
      pairwise_idxOf_eraseDups targets, ?_, ?_⟩
    · exact m.registry.find?_upsert _
    · exact Registry.entries_upsert hd _
  · refine ⟨Registry.find?_remove_fst _ name, ?_, Registry.entries_remove hd name⟩
    exact Registry.find?_remove hd name

end Mapper

end DesignTokens
