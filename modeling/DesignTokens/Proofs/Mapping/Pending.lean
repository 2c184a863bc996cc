import DesignTokens.Proofs.Mapping.Calls
import DesignTokens.Proofs.Mapping.Guesses
import DesignTokens.Proofs.Mapping.Verdicts

/-!
What is pending is unresolved. A name becomes pending when it has no verdict, and from then on only
an edit under that very name could give it one; but such an edit drops its guesses, whatever case
they are spelled in. So as long as the keywords stay, no pending name ever has a verdict:

    no verdict ── resolve ──▶ pending
    pending    ── update or remove under its name ──▶ dropped
    pending    ── anything else ──▶ pending, still without a verdict
-/

namespace DesignTokens.Mapper

variable {keywords : KeywordSet}

/-- Whether the call, if it asks for a name, asks with these keywords. -/
def Call.Uses (keywords : KeywordSet) : Call → Prop
  | .resolve used _ => used = keywords
  | _ => True

/-- The registry holds each name once, and every pending name has a suggestion but no verdict. -/
structure Unresolved (keywords : KeywordSet) (m : Mapper) : Prop where
  distinct : m.registry.Distinct
  suggested : m.Suggested
  no_verdict : ∀ p ∈ m.pending, m.registry.verdict? keywords p.1 = none

namespace Unresolved

theorem ofRegistry {r : Registry} (h : r.Distinct) : (Mapper.ofRegistry r).Unresolved keywords :=
  ⟨h, .ofRegistry r, fun _ hp => absurd hp List.not_mem_nil⟩

theorem update {m : Mapper} (h : m.Unresolved keywords) (name : Text) (targets : List Text)
    (description : Option Text) : (m.update name targets description).Unresolved keywords where
  distinct := h.distinct.upsert _
  suggested := h.suggested.update name targets description
  no_verdict p hp := by
    obtain ⟨hold, hother⟩ := mem_forget.mp hp
    exact (Registry.verdict?_upsert _ hother).trans (h.no_verdict p hold)

theorem remove {m : Mapper} (h : m.Unresolved keywords) (name : Text) :
    (m.remove name).2.Unresolved keywords where
  distinct := h.distinct.remove name
  suggested := h.suggested.remove name
  no_verdict p hp := by
    obtain ⟨hold, hother⟩ := mem_forget.mp hp
    exact (Registry.verdict?_remove h.distinct hother).trans (h.no_verdict p hold)

theorem resolve {m : Mapper} (h : m.Unresolved keywords) (name : Text) :
    (m.resolve keywords name).2.Unresolved keywords where
  distinct := by rw [registry_resolve]; exact h.distinct
  suggested := h.suggested.resolve keywords name
  no_verdict p hp := by
    rw [registry_resolve]
    rw [resolve_eq] at hp
    cases hv : m.registry.verdict? keywords name with
    | some answer =>
      rw [hv] at hp
      exact h.no_verdict p hp
    | none =>
      rw [hv] at hp
      rcases Assoc.mem_insert hp with rfl | hp
      · exact hv
      · exact h.no_verdict p hp

theorem after {m : Mapper} (h : m.Unresolved keywords) {call : Call} (hc : call.Uses keywords) :
    (m.after call).Unresolved keywords := by
  cases call with
  | update name targets description => exact h.update name targets description
  | remove name => exact h.remove name
  | resolve used name =>
    cases hc
    exact h.resolve name

theorem run {m : Mapper} (h : m.Unresolved keywords) {calls : List Call}
    (hc : ∀ call ∈ calls, call.Uses keywords) : (m.run calls).Unresolved keywords :=
  List.foldlRecOn (motive := Unresolved keywords) calls Mapper.after h
    fun _ hm call hcall => hm.after (hc call hcall)

end Unresolved

/-- In every run that asks with the same keywords, a pending name is neither standard nor a
directional shorthand, its guess is the suggestion for it, and no entry of the registry has that
name, unless the name carries a vendor's mark and the entry stands for nothing. -/
theorem pending_is_unresolved (origin : Registry.Origin) {calls : List Call}
    (hc : ∀ call ∈ calls, call.Uses keywords) :
    let m := (ofRegistry origin.registry).run calls
    ∀ p ∈ m.pending,
      isStandard keywords p.1 = false ∧ isDirectionalShorthand p.1 = false ∧ p.2 = suggest p.1 ∧
        ∀ entry ∈ m.registry.entries, entry.name.sameName p.1 →
          (stripVendor? p.1).isSome ∧ entry.targets = [] := by
  intro m p hp
  have h : m.Unresolved keywords := (Unresolved.ofRegistry origin.distinct_registry).run hc
  obtain ⟨hstandard, hshorthand, hregistered⟩ := Registry.verdict?_eq_none (h.no_verdict p hp)
  refine ⟨hstandard, hshorthand, h.suggested p hp, fun entry hentry hsame => ?_⟩
  exact hregistered entry (h.distinct.find?_of_mem hentry hsame)

/-- The exception occurs: a name with a vendor's mark that was registered without targets becomes
pending, beside a name that was never registered. -/
theorem pending_beside_registered :
    let keywords : KeywordSet := ⟨["gap"]⟩
    let calls : List Call := [.resolve keywords "card-gap", .update "-O-Glow" [] none,
      .resolve keywords "-o-glow"]
    let m := (ofRegistry (Registry.Origin.registry .defaults)).run calls
    m.pending = ([("card-gap", ["gap"]), ("-o-glow", [])] : List (Text × List Text)) ∧
      m.registry.entries.any (·.name.sameName "-o-glow") ∧
      ∀ p ∈ m.pending,
        isStandard keywords p.1 = false ∧ isDirectionalShorthand p.1 = false ∧
          p.2 = suggest p.1 ∧
          ∀ entry ∈ m.registry.entries, entry.name.sameName p.1 →
            (stripVendor? p.1).isSome ∧ entry.targets = [] := by
  intro keywords calls m
  have hc : ∀ call ∈ calls, call.Uses keywords := by simp [calls, Call.Uses]
  exact ⟨by decide +kernel, by decide +kernel, pending_is_unresolved .defaults hc⟩

end DesignTokens.Mapper
