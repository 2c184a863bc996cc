import DesignTokens.Proofs.Mapping.Resolution

/-!
Guesses are suggestions. Nobody writes a pending guess but the mapper itself, and it writes the
suggestion for the name; edits only take guesses away. So as long as a mapper starts with nothing
pending, each guess can be told from its name (`Suggested`), and what a context answers is a
function of its keywords, its registry and the name (`answer_of_suggested`).
-/

namespace DesignTokens

/-- Every pending guess is the suggestion for its name. -/
def Mapper.Suggested (m : Mapper) : Prop := ∀ p ∈ m.pending, p.2 = suggest p.1

namespace Mapper.Suggested

theorem ofRegistry (r : Registry) : (Mapper.ofRegistry r).Suggested :=
  fun _ hp => absurd hp List.not_mem_nil

theorem forget {m : Mapper} (h : m.Suggested) (r : Registry) (name : Text) :
    (Mapper.mk r (Mapper.forget m.pending name)).Suggested :=
  fun p hp => h p (List.mem_filter.mp hp).1

theorem update {m : Mapper} (h : m.Suggested) (name : Text) (targets : List Text)
    (description : Option Text) : (m.update name targets description).Suggested :=
  h.forget _ name

theorem remove {m : Mapper} (h : m.Suggested) (name : Text) : (m.remove name).2.Suggested :=
  h.forget _ name

theorem guess_eq {m : Mapper} (h : m.Suggested) (name : Text) : m.guess name = suggest name := by
  unfold guess
  cases hf : Assoc.find? name m.pending with
  | none => rfl
  | some targets => exact h _ (Assoc.mem_of_find? hf)

theorem note {m : Mapper} (h : m.Suggested) (name : Text) : (m.note name).Suggested := by
  intro p hp
  rcases Assoc.mem_insert hp with rfl | hp
  · exact h.guess_eq name
  · exact h p hp

theorem resolve {m : Mapper} (h : m.Suggested) (keywords : KeywordSet) (name : Text) :
    (m.resolve keywords name).2.Suggested := by
  rw [resolve_eq]
  cases m.registry.verdict? keywords name with
  | some _ => exact h
  | none => exact h.note name

end Mapper.Suggested

namespace Context

theorem suggested_lookAll {x : Context} (h : x.mapper.Suggested) (names : List Text) :
    (x.lookAll names).mapper.Suggested := by
  induction names generalizing x with
  | nil => exact h
  | cons name names ih => exact ih (h.resolve x.keywords name)

/-- The answer without the mapper's memory. -/
theorem answer_of_suggested {x : Context} (h : x.mapper.Suggested) (name : Text) :
    x.answer name =
      (x.mapper.registry.verdict? x.keywords name).getD (.detected (suggest name)) := by
  rw [answer_eq, h.guess_eq]

end Context

end DesignTokens
