import DesignTokens.Proofs.Mapping.Guesses
import DesignTokens.Proofs.Render.Pass

/-!
Passes do not depend on what happened before them. A context has a history of edits, look-ups and
passes, of which the pending guesses are the trace; two contexts with the same keywords and the same
registry give the same text all the same, whatever their histories were. Since a pass only asks for
names, repeating it gives its text and its context again.
-/

namespace DesignTokens

/-- The contexts that edits, look-ups and passes lead to from any keywords and any registry, with
nothing pending at first. Keywords may be exchanged on the way. -/
inductive Context.Reachable : Context → Prop
  | start (keywords : KeywordSet) (registry : Registry) : Reachable (.of keywords registry)
  | update {x : Context} (name : Text) (targets : List Text) (description : Option Text) :
      Reachable x → Reachable { x with mapper := x.mapper.update name targets description }
  | remove {x : Context} (name : Text) :
      Reachable x → Reachable { x with mapper := (x.mapper.remove name).2 }
  | resolve {x : Context} (keywords : KeywordSet) (name : Text) :
      Reachable x → Reachable { x with mapper := (x.mapper.resolve keywords name).2 }
  | render {x : Context} (c : Config) (sources : List Source) :
      Reachable x → Reachable (render c x sources).2
  | exchange {x : Context} (keywords : KeywordSet) : Reachable x → Reachable { x with keywords }

/-- The context after a pass is the one before it, asked for some names; a pass that fails asks for
none. -/
theorem context_render (c : Config) (x : Context) (sources : List Source) :
    ∃ names, (render c x sources).2 = x.lookAll names := by
  rw [render_eq_output]
  exact context_renderOutput c x sources

/-- Whatever its history, a context holds suggestions only. -/
theorem Context.Reachable.suggested {x : Context} (h : x.Reachable) : x.mapper.Suggested := by
  induction h with
  | start keywords registry => exact .ofRegistry registry
  | update name targets description _ ih => exact ih.update name targets description
  | remove name _ ih => exact ih.remove name
  | resolve keywords name _ ih => exact ih.resolve keywords name
  | @render x c sources _ ih =>
    obtain ⟨names, hn⟩ := context_render c x sources
    rw [hn]
    exact Context.suggested_lookAll ih names
  | exchange keywords _ ih => exact ih

/-- Histories that end in the same keywords and the same registry end in contexts that answer
alike. -/
theorem Context.Reachable.alike {x y : Context} (hx : x.Reachable) (hy : y.Reachable)
    (hkeywords : x.keywords = y.keywords) (hregistry : x.mapper.registry = y.mapper.registry) :
    x.Alike y where
  keywords := hkeywords
  answer := by
    funext name
    rw [answer_of_suggested hx.suggested, answer_of_suggested hy.suggested, hkeywords, hregistry]

/-- A pass reads the keywords and the registry of its context, never its history; and a second pass
over the context it leaves repeats the text and changes nothing in the context, a pass that fails
included. -/
theorem pass_forgets_history {x y : Context} (hx : x.Reachable) (hy : y.Reachable)
    (hkeywords : x.keywords = y.keywords) (hregistry : x.mapper.registry = y.mapper.registry)
    (c : Config) (sources : List Source) :
    (tryRender c x sources).map Prod.fst = (tryRender c y sources).map Prod.fst ∧
      (∀ text after, tryRender c x sources = .ok (text, after) →
        tryRender c after sources = .ok (text, after)) ∧
      renderOutput c (renderOutput c x sources).2 sources = renderOutput c x sources :=
  ⟨tryRender_alike c (hx.alike hy hkeywords hregistry) sources,
    fun _ _ h => tryRender_again h, renderOutput_again c x sources⟩

/-- A look-up of `card-gap` leaves a guess behind, and a pass over a token of that name gives the
same text with the guess and without it. -/
theorem pass_forgets_card_gap :
    let x := Context.of ⟨["gap"]⟩ .defaults
    let y := { x with mapper := (x.mapper.resolve x.keywords "card-gap").2 }
    let token := Json.object [("$type", .string "dimension"), ("$value", .string "4px")]
    let sources : List Source := [⟨"a.json", some (.object [("card-gap", token)])⟩]
    x.mapper.pending ≠ y.mapper.pending ∧
      (tryRender .default x sources).map Prod.fst =
        (tryRender .default y sources).map Prod.fst := by
  intro x y token sources
  have hx : x.Reachable := .start ⟨["gap"]⟩ .defaults
  have hy : y.Reachable := .resolve x.keywords "card-gap" hx
  have hregistry : x.mapper.registry = y.mapper.registry := by decide
  refine ⟨by decide, ?_⟩
  exact (pass_forgets_history hx hy rfl hregistry .default sources).1

end DesignTokens
