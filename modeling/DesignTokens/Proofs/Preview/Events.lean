import DesignTokens.Preview.Session
import DesignTokens.Proofs.Render.Pass
import Mathlib.Data.List.Induction

/-!
What a preview keeps of what happens to it. Settings and inputs are given at any times, also times
that go back, and ticks come in between:

    inputs a      settings c      tick      inputs b      tick
       │             └─ in use from here on     └─ in use from here on
       └─ in use up to inputs b

At any time the preview has the settings and the inputs that were given last (`config_run`,
`sources_run`), and the context that it began with, asked for some names (`context_run`): the passes
have left nothing else there.
-/

namespace DesignTokens.Session

/-- What happens to a preview. -/
inductive Event where
  | setConfig (config : Config) (now : Nat)
  | setSources (sources : List Source) (now : Nat)
  | tick (now : Nat)

namespace Event

/-- The settings that an event gives. -/
def config? : Event → Option Config
  | .setConfig config _ => some config
  | _ => none

/-- The inputs that an event gives. -/
def sources? : Event → Option (List Source)
  | .setSources sources _ => some sources
  | _ => none

/-- The time of an event that is a change. -/
def changedAt? : Event → Option Nat
  | .setConfig _ now | .setSources _ now => some now
  | .tick _ => none

/-- The time of the change that waits after an event, by that of the one that waited before: a new
change takes its place, and a tick takes it away if its delay has passed. -/
def since? (delay : Nat) (since : Option Nat) : Event → Option Nat
  | .setConfig _ now | .setSources _ now => some now
  | .tick now => since.filter fun changed => now < changed + delay

theorem since?_tick_of_due {delay changed now : Nat} (h : changed + delay ≤ now) :
    (tick now).since? delay (some changed) = none := by
  simp [since?, Option.filter_some, Nat.not_lt.mpr h]

theorem since?_tick_of_not_due {delay changed now : Nat} (h : now < changed + delay) :
    (tick now).since? delay (some changed) = some changed := by
  simp [since?, Option.filter_some, h]

end Event

/-- The preview after an event. -/
def after (s : Session) : Event → Session
  | .setConfig config now => (s.setConfig config now).2
  | .setSources sources now => (s.setSources sources now).2
  | .tick now => (s.tick now).2

/-- The preview after events, one after the other. -/
def run (s : Session) (events : List Event) : Session := events.foldl after s

theorem run_concat (s : Session) (events : List Event) (e : Event) :
    s.run (events ++ [e]) = (s.run events).after e := by
  rw [run, List.foldl_append]
  rfl

/-! ### What events say -/

/-- What the last event gives that gives anything. -/
def latest {α : Type} (given : Event → Option α) (events : List Event) : Option α :=
  (events.filterMap given).getLast?

/-- The time of the last change among events. -/
def lastChange (events : List Event) : Option Nat := latest Event.changedAt? events

/-- The time of the change that waits after events: it is the last one, unless a tick has come when
its delay had passed. -/
def waitingSince (delay : Nat) (events : List Event) : Option Nat :=
  events.foldl (Event.since? delay) none

theorem latest_concat {α : Type} (given : Event → Option α) (events : List Event) (e : Event) :
    latest given (events ++ [e]) = (given e).or (latest given events) := by
  rw [latest, List.filterMap_append, List.getLast?_append]
  cases h : given e <;> simp [h, latest]

theorem waitingSince_concat (delay : Nat) (events : List Event) (e : Event) :
    waitingSince delay (events ++ [e]) = e.since? delay (waitingSince delay events) := by
  rw [waitingSince, List.foldl_append]
  rfl

/-! ### What is kept -/

/-- A part of the preview that changes with what events give is what was given last. -/
theorem part_run {α : Type} {part : Session → α} {given : Event → Option α}
    (hstep : ∀ s e, part (after s e) = (given e).getD (part s)) (s : Session)
    (events : List Event) : part (s.run events) = (latest given events).getD (part s) := by
  induction events using List.reverseRecOn with
  | nil => rfl
  | append_singleton events e ih =>
    rw [run_concat, hstep, ih, latest_concat, Option.getD_or]

/-- A tick makes a pass over the preview as it is, or leaves what the preview is made of alone. -/
theorem tick_parts (s : Session) (now : Nat) :
    (s.tick now).2.config = s.config ∧ (s.tick now).2.sources = s.sources ∧
      ((s.tick now).2.context = s.context ∨
        (s.tick now).2.context = (renderOutput s.config s.context s.sources).2) := by
  unfold tick
  dsimp only
  split
  · exact ⟨rfl, rfl, .inl rfl⟩
  · split
    · exact ⟨rfl, rfl, .inr rfl⟩
    · exact ⟨rfl, rfl, .inr rfl⟩

/-- The settings in use are those that were given last. -/
theorem config_run (s : Session) (events : List Event) :
    (s.run events).config = (latest Event.config? events).getD s.config := by
  refine part_run (fun s e => ?_) s events
  cases e with
  | tick now => exact (s.tick_parts now).1
  | setConfig | setSources => rfl

/-- The inputs in use are those that were given last. -/
theorem sources_run (s : Session) (events : List Event) :
    (s.run events).sources = (latest Event.sources? events).getD s.sources := by
  refine part_run (fun s e => ?_) s events
  cases e with
  | tick now => exact (s.tick_parts now).2.1
  | setConfig | setSources => rfl

theorem context_after (s : Session) (e : Event) :
    ∃ names, (s.after e).context = s.context.lookAll names := by
  cases e with
  | setConfig | setSources => exact ⟨[], rfl⟩
  | tick now =>
    rcases (s.tick_parts now).2.2 with hsame | hpass
    · exact ⟨[], hsame⟩
    · obtain ⟨names, hnames⟩ := context_renderOutput s.config s.context s.sources
      exact ⟨names, hpass.trans hnames⟩

/-- The context has been asked for names, and nothing else has happened to it. -/
theorem context_run (s : Session) (events : List Event) :
    ∃ names, (s.run events).context = s.context.lookAll names := by
  induction events using List.reverseRecOn with
  | nil => exact ⟨[], rfl⟩
  | append_singleton events e ih =>
    obtain ⟨names, hnames⟩ := ih
    obtain ⟨more, hmore⟩ := (s.run events).context_after e
    refine ⟨names ++ more, ?_⟩
    rw [run_concat, hmore, hnames, Context.lookAll_append]

/-- A pass over what is in use gives what it would have given over the context at the beginning. -/
theorem renderOutput_run (s : Session) (events : List Event) (c : Config) (sources : List Source) :
    (renderOutput c (s.run events).context sources).1 = (renderOutput c s.context sources).1 := by
  obtain ⟨names, hnames⟩ := s.context_run events
  have halike : (s.run events).context.Alike s.context :=
    hnames ▸ (Context.Alike.refl s.context).lookAll names []
  exact renderOutput_alike c halike sources

end DesignTokens.Session
