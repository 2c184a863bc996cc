import DesignTokens.Proofs.Mapping.Calls

/-!
Targets are sets. A mapping may be given a target twice, but it is registered with each of its
targets once; so if that holds of the mappings a registry was made from, it holds in every run.
-/

namespace DesignTokens

theorem nodup_eraseDups (targets : List Text) : targets.eraseDups.Nodup := by
  refine (pairwise_idxOf_eraseDups targets).imp fun {a b} hlt heq => ?_
  rw [heq] at hlt
  exact absurd hlt (Nat.lt_irrefl _)

/-- A list without repeated targets keeps them all. -/
theorem eraseDups_of_nodup {targets : List Text} (h : targets.Nodup) :
    targets.eraseDups = targets := by
  induction targets using List.reverseRecOn with
  | nil => rfl
  | append_singleton targets t ih =>
    obtain ⟨htargets, -, hnew⟩ := List.nodup_append.mp h
    have ht : t ∉ targets := fun hmem => hnew t hmem t (List.mem_singleton_self t) rfl
    rw [eraseDups_concat, if_neg ht, ih htargets]

namespace Registry

/-- No entry names a target twice. -/
def HasTargetSets (r : Registry) : Prop := ∀ m ∈ r.entries, m.targets.Nodup

theorem mem_upsertInto {m entry : Mapping} {entries : List Mapping}
    (h : entry ∈ upsertInto m entries) : entry = m ∨ entry ∈ entries := by
  induction entries with
  | nil => exact Or.inl (List.mem_singleton.mp h)
  | cons first rest ih =>
    unfold upsertInto at h
    split at h
    · rcases List.mem_cons.mp h with rfl | hrest
      · exact Or.inl rfl
      · exact Or.inr (List.mem_cons_of_mem _ hrest)
    · rcases List.mem_cons.mp h with rfl | hrest
      · exact Or.inr (List.mem_cons_self ..)
      · exact (ih hrest).imp_right (List.mem_cons_of_mem _)

theorem HasTargetSets.upsert {r : Registry} (h : r.HasTargetSets) {m : Mapping}
    (hm : m.targets.Nodup) : (r.upsert m).HasTargetSets := by
  intro entry hentry
  rcases mem_upsertInto hentry with rfl | hold
  · exact hm
  · exact h entry hold

theorem HasTargetSets.remove {r : Registry} (h : r.HasTargetSets) (name : Text) :
    (r.remove name).2.HasTargetSets :=
  fun entry hentry => h entry ((takeFrom_sublist name r.entries).subset hentry)

theorem hasTargetSets_ofSaved {saved : List Mapping} (h : ∀ m ∈ saved, m.targets.Nodup) :
    (ofSaved saved).HasTargetSets := by
  have hdefaults : defaults.HasTargetSets := by
    unfold HasTargetSets
    decide
  exact List.foldlRecOn saved Registry.upsert hdefaults fun _ hr m hm => hr.upsert (h m hm)

end Registry

namespace Mapper

theorem hasTargetSets_after {m : Mapper} (h : m.registry.HasTargetSets) (call : Call) :
    (m.after call).registry.HasTargetSets := by
  cases call with
  | update name targets description => exact h.upsert (nodup_eraseDups targets)
  | remove name => exact h.remove name
  | resolve keywords name => rw [after, registry_resolve]; exact h

theorem hasTargetSets_run {m : Mapper} (h : m.registry.HasTargetSets) (calls : List Call) :
    (m.run calls).registry.HasTargetSets :=
  List.foldlRecOn (motive := fun m => m.registry.HasTargetSets) calls after h
    fun _ hm call _ => hasTargetSets_after hm call

end Mapper

end DesignTokens
