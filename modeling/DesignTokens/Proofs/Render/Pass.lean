import DesignTokens.Proofs.Render.Sheets
import DesignTokens.Render.Output

/-!
What a pass takes from its context and what it leaves there. Only class passes ask the mapper for
names (`passNames`), and the answers are all that their text takes from the context. So contexts
that answer alike give one text (`tryRender_alike`), and the context after a pass is the one before
it, asked for the names of the pass (`context_of_tryRender`). A second pass meets settled names only
and repeats the first (`tryRender_again`, `renderOutput_again`).
-/

namespace DesignTokens

/-- The names that a pass asks for, in their order. -/
def passNames (c : Config) (keywords : KeywordSet) (sources : List Source) : List Text :=
  match c.mode with
  | .classes => (classDocuments c sources).flatMap (documentNames c keywords)
  | _ => []

/-- Contexts that answer alike give the same text, or the same error. -/
theorem tryRender_alike (c : Config) {x y : Context} (h : x.Alike y) (sources : List Source) :
    (tryRender c x sources).map Prod.fst = (tryRender c y sources).map Prod.fst := by
  unfold tryRender
  cases c.fault with
  | some e => rfl
  | none =>
    cases hm : c.mode with
    | classes => exact text_classSheet c h sources
    | properties | references =>
      simp only [bind, Except.bind]
      cases defaultIndex c sources with
      | error e => rfl
      | ok default =>
        simp only
        cases documentAt sources default with
        | none => rfl
        | some document => simp only [Except.map, h.keywords]

/-- Whether a pass can be made, and why not, does not depend on the context. -/
theorem tryRender_error {c : Config} {x : Context} {sources : List Source} {e : RenderError}
    (h : tryRender c x sources = .error e) (y : Context) : tryRender c y sources = .error e := by
  unfold tryRender at h ⊢
  cases hf : c.fault with
  | some fault => rw [hf] at h; exact h
  | none =>
    rw [hf] at h
    cases hm : c.mode with
    | classes => rw [hm] at h; exact classSheet_error h y
    | properties | references =>
      rw [hm] at h
      simp only [bind, Except.bind] at h ⊢
      cases hd : defaultIndex c sources with
      | error e' => rw [hd] at h; exact h
      | ok default =>
        rw [hd] at h
        simp only at h ⊢
        cases hdoc : documentAt sources default with
        | none => rw [hdoc] at h; exact h
        | some document => rw [hdoc] at h; cases h

/-- A pass leaves the context it was given, asked for the names of the pass. -/
theorem context_of_tryRender {c : Config} {x y : Context} {sources : List Source} {text : Text}
    (h : tryRender c x sources = .ok (text, y)) :
    y = x.lookAll (passNames c x.keywords sources) := by
  unfold tryRender at h
  unfold passNames
  cases hf : c.fault with
  | some e => rw [hf] at h; cases h
  | none =>
    rw [hf] at h
    cases hm : c.mode with
    | classes => rw [hm] at h; exact context_classSheet h
    | properties | references =>
      rw [hm] at h
      simp only [bind, Except.bind] at h
      cases hd : defaultIndex c sources with
      | error e => rw [hd] at h; cases h
      | ok default =>
        rw [hd] at h
        simp only at h
        cases hdoc : documentAt sources default with
        | none => rw [hdoc] at h; cases h
        | some document =>
          rw [hdoc] at h
          cases h
          rfl

/-- A pass over the context that a pass has left gives its text again and changes nothing. -/
theorem tryRender_again {c : Config} {x y : Context} {sources : List Source} {text : Text}
    (h : tryRender c x sources = .ok (text, y)) : tryRender c y sources = .ok (text, y) := by
  have hy := context_of_tryRender h
  have hkeywords : y.keywords = x.keywords := by rw [hy, Context.keywords_lookAll]
  have halike : x.Alike y := by
    rw [hy]
    exact (Context.Alike.refl x).lookAll [] _
  have htext := tryRender_alike c halike sources
  rw [h] at htext
  cases hagain : tryRender c y sources with
  | error e => rw [hagain] at htext; cases htext
  | ok result =>
    obtain ⟨text', z⟩ := result
    rw [hagain] at htext
    cases htext
    have hz := context_of_tryRender hagain
    rw [hkeywords, hy, Context.lookAll_lookAll, ← hy] at hz
    rw [hz]

/-! ### Outputs

An output is there for a pass that cannot be made as well: it holds the comment that says why. -/

/-- A pass gives the text of its output, and leaves the same context. -/
theorem render_eq_output (c : Config) (x : Context) (sources : List Source) :
    render c x sources =
      ((renderOutput c x sources).1.text, (renderOutput c x sources).2) := by
  unfold render renderOutput
  cases tryRender c x sources <;> rfl

/-- Contexts that answer alike give the same output. -/
theorem renderOutput_alike (c : Config) {x y : Context} (h : x.Alike y) (sources : List Source) :
    (renderOutput c x sources).1 = (renderOutput c y sources).1 := by
  have htext := tryRender_alike c h sources
  unfold renderOutput
  cases hx : tryRender c x sources with
  | error e => rw [tryRender_error hx y]
  | ok result =>
    rw [hx] at htext
    cases hy : tryRender c y sources with
    | error e => rw [hy] at htext; cases htext
    | ok other =>
      rw [hy] at htext
      have hsame : result.1 = other.1 := Except.ok.inj htext
      show Output.mk result.1 _ _ = Output.mk other.1 _ _
      rw [hsame]

/-- The context after an output is the one before it, asked for some names. -/
theorem context_renderOutput (c : Config) (x : Context) (sources : List Source) :
    ∃ names, (renderOutput c x sources).2 = x.lookAll names := by
  unfold renderOutput
  cases h : tryRender c x sources with
  | error e => exact ⟨[], rfl⟩
  | ok result => exact ⟨_, context_of_tryRender h⟩

/-- An output over the context that it has left is the same again and changes nothing. -/
theorem renderOutput_again (c : Config) (x : Context) (sources : List Source) :
    renderOutput c (renderOutput c x sources).2 sources = renderOutput c x sources := by
  cases h : tryRender c x sources with
  | error e =>
    have hx : renderOutput c x sources = (⟨errorComment e, Artifact.fallback, true⟩, x) := by
      rw [renderOutput, h]
    rw [hx]
    exact hx
  | ok result =>
    obtain ⟨text, y⟩ := result
    have hx : renderOutput c x sources = (⟨text, Artifact.ofConfig c, false⟩, y) := by
      rw [renderOutput, h]
    rw [hx, renderOutput, tryRender_again h]

end DesignTokens
