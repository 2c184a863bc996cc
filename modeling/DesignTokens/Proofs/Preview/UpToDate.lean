import DesignTokens.Proofs.Preview.Events
import DesignTokens.Proofs.Preview.Tickets

/-!
A preview at rest is up to date. Changes and ticks come in any order and at any times, also times
that go back:

    change at t   ──▶  waiting until t + delay
    tick at now   ──▶  t + delay ≤ now : the pass is made and shown, nothing waits
                       now < t + delay : nothing happens

The invariant (`UpToDate`) says which change waits and when it is due and, if none waits, what is
shown: the output of a pass over the preview as it is, whose context is the one that the shown pass
has left. That the pass can be repeated there is what `renderOutput_again` says. What the preview is
made of is what was given last, so no change is lost (`preview_at_rest_is_current`).
-/

namespace DesignTokens.Session

/-! ### Ticks -/

theorem tick_of_due {s : Session} {w : Waiting} {now : Nat} (ho : s.scheduler.Ordered)
    (hw : s.scheduler.waiting = some w) (hd : w.deadline ≤ now) :
    s.tick now =
      let result := renderOutput s.config s.context s.sources
      (some result.1,
        { s with
          scheduler := { s.scheduler with waiting := none, applied := some w.ticket }
          context := result.2
          output := some result.1 }) := by
  unfold tick
  rw [Scheduler.fire_of_due hw hd]
  simp only [Scheduler.complete_of_ordered ho hw]
  rfl

theorem tick_of_not_due {s : Session} {now : Nat}
    (h : ∀ w ∈ s.scheduler.waiting, now < w.deadline) : s.tick now = (none, s) := by
  unfold tick
  rw [Scheduler.fire_of_not_due h]

/-! ### The invariant -/

/-- What waits is due when the delay has passed since it was made, and it is the last change; when
nothing waits after a change, what is shown is the output of a pass over the preview as it is, and
that pass would leave the context as it is. -/
structure UpToDate (delay : Nat) (since last : Option Nat) (s : Session) : Prop where
  delay_eq : s.scheduler.delay = delay
  ordered : s.scheduler.Ordered
  deadline : s.scheduler.waiting.map Waiting.deadline = since.map (· + delay)
  since_last : ∀ changed ∈ since, last = some changed
  shown : s.scheduler.waiting = none → last.isSome → ∃ output, s.output = some output ∧
    renderOutput s.config s.context s.sources = (output, s.context)

theorem upToDate_start (config : Config) (context : Context) (delay : Nat) :
    UpToDate delay none none (start config context delay) where
  delay_eq := rfl
  ordered := Scheduler.ordered_start delay
  deadline := rfl
  since_last _ h := nomatch h
  shown _ h := nomatch h

namespace UpToDate

variable {delay : Nat} {since last : Option Nat} {s : Session}

theorem exists_since (h : UpToDate delay since last s) {w : Waiting}
    (hw : s.scheduler.waiting = some w) :
    ∃ changed, since = some changed ∧ last = some changed ∧ w.deadline = changed + delay := by
  have hdeadline := h.deadline
  rw [hw, Option.map_some] at hdeadline
  obtain ⟨changed, hsince, hdue⟩ := Option.map_eq_some_iff.mp hdeadline.symm
  exact ⟨changed, hsince, h.since_last changed hsince, hdue.symm⟩

theorem since_eq_none (h : UpToDate delay since last s) (hw : s.scheduler.waiting = none) :
    since = none := by
  have hdeadline := h.deadline
  rw [hw, Option.map_none] at hdeadline
  exact Option.map_eq_none_iff.mp hdeadline.symm

/-- A change waits for its delay, whatever waited or was shown before. -/
theorem change {now : Nat} {s' : Session} (h : UpToDate delay since last s)
    (hs : s'.scheduler = (s.scheduler.schedule now).2) :
    UpToDate delay (some now) (some now) s' where
  delay_eq := by rw [hs]; exact h.delay_eq
  ordered := by rw [hs]; exact h.ordered.schedule now
  deadline := by
    rw [hs, ← h.delay_eq]
    rfl
  since_last _ h := h
  shown hnone := by
    rw [hs] at hnone
    cases hnone

/-- A tick makes the pass of the change that waits if its delay has passed. -/
theorem tick (h : UpToDate delay since last s) (now : Nat) :
    UpToDate delay ((Event.tick now).since? delay since) last (s.tick now).2 := by
  rcases s.scheduler.due_or_not now with ⟨w, hw, hd⟩ | hnot
  · obtain ⟨changed, hsince, -, hdeadline⟩ := h.exists_since hw
    have hgone : (Event.tick now).since? delay since = none := by
      rw [hsince]
      exact Event.since?_tick_of_due (hdeadline ▸ hd)
    rw [tick_of_due h.ordered hw hd, hgone]
    exact {
      delay_eq := h.delay_eq
      ordered := h.ordered.done hw
      deadline := rfl
      since_last := nofun
      shown := fun _ _ => ⟨_, rfl, renderOutput_again s.config s.context s.sources⟩ }
  · have hsame : (Event.tick now).since? delay since = since := by
      cases hw : s.scheduler.waiting with
      | none =>
        rw [h.since_eq_none hw]
        rfl
      | some w =>
        obtain ⟨changed, hsince, -, hdeadline⟩ := h.exists_since hw
        rw [hsince]
        exact Event.since?_tick_of_not_due (hdeadline ▸ hnot w hw)
    rw [tick_of_not_due hnot, hsame]
    exact h

theorem after (h : UpToDate delay since last s) (e : Event) :
    UpToDate delay (e.since? delay since) (e.changedAt?.or last) (s.after e) := by
  cases e with
  | setConfig config now => exact h.change rfl
  | setSources sources now => exact h.change rfl
  | tick now => exact h.tick now

/-- A tick makes a pass exactly when a change waits and its delay has passed. -/
theorem tick_isSome_iff (h : UpToDate delay since last s) (now : Nat) :
    (s.tick now).1.isSome ↔
      s.scheduler.waiting.isSome ∧ ∃ changed, last = some changed ∧ changed + delay ≤ now := by
  rcases s.scheduler.due_or_not now with ⟨w, hw, hd⟩ | hnot
  · obtain ⟨changed, -, hlast, hdeadline⟩ := h.exists_since hw
    rw [tick_of_due h.ordered hw hd, hw]
    exact iff_of_true rfl ⟨rfl, changed, hlast, hdeadline ▸ hd⟩
  · rw [tick_of_not_due hnot]
    refine iff_of_false (by simp) ?_
    rintro ⟨hsome, changed, hlast, hle⟩
    obtain ⟨w, hw⟩ := Option.isSome_iff_exists.mp hsome
    obtain ⟨changed', -, hlast', hdeadline⟩ := h.exists_since hw
    obtain rfl := Option.some.inj (hlast.symm.trans hlast')
    exact absurd (hdeadline ▸ hnot w hw) (Nat.not_lt.mpr hle)

/-- A pass that fires is not turned away. -/
theorem accepted (h : UpToDate delay since last s) {now : Nat} {ticket : Ticket}
    (hf : (s.scheduler.fire now).1 = some ticket) :
    ((s.scheduler.fire now).2.complete ticket).1 = true := by
  rcases s.scheduler.due_or_not now with ⟨w, hw, hd⟩ | hnot
  · rw [Scheduler.fire_of_due hw hd] at hf ⊢
    cases hf
    simp only [Scheduler.complete_of_ordered h.ordered hw]
  · rw [Scheduler.fire_of_not_due hnot] at hf
    cases hf

/-- What a tick gives is the output of a pass over the preview, and is shown from then on. -/
theorem tick_eq_some (h : UpToDate delay since last s) {now : Nat} {output : Output}
    (htick : (s.tick now).1 = some output) :
    output = (renderOutput s.config s.context s.sources).1 ∧
      (s.tick now).2.output = some output ∧ (s.tick now).2.scheduler.waiting = none := by
  rcases s.scheduler.due_or_not now with ⟨w, hw, hd⟩ | hnot
  · rw [tick_of_due h.ordered hw hd] at htick ⊢
    exact ⟨(Option.some.inj htick).symm, htick, rfl⟩
  · rw [tick_of_not_due hnot] at htick
    cases htick

/-- A tick that gives nothing does nothing. -/
theorem tick_eq_none (h : UpToDate delay since last s) {now : Nat}
    (htick : (s.tick now).1 = none) : (s.tick now).2 = s := by
  rcases s.scheduler.due_or_not now with ⟨w, hw, hd⟩ | hnot
  · rw [tick_of_due h.ordered hw hd] at htick
    cases htick
  · rw [tick_of_not_due hnot]

end UpToDate

theorem upToDate_run (config : Config) (context : Context) (delay : Nat) (events : List Event) :
    UpToDate delay (waitingSince delay events) (lastChange events)
      ((start config context delay).run events) := by
  induction events using List.reverseRecOn with
  | nil => exact upToDate_start config context delay
  | append_singleton events e ih =>
    rw [run_concat, waitingSince_concat, lastChange, latest_concat]
    exact ih.after e

/-- In every run, the preview has the settings and the inputs that were given last, and keywords and
mappings as they were at the beginning; what waits is what the events say. A tick makes a pass
exactly when a change waits whose delay has passed since the last change, and does nothing else
otherwise; no pass that fires is turned away, and what a tick gives is shown from then on. When
nothing waits after a change, the preview shows what a pass over its current settings, inputs and
context gives. That pass would leave the context as it is, and gives the same over the context at
the beginning. -/
theorem preview_at_rest_is_current (config : Config) (context : Context) (delay : Nat)
    (events : List Event) :
    let s := (start config context delay).run events
    let lastConfig := (latest Event.config? events).getD config
    let lastSources := (latest Event.sources? events).getD []
    (s.config = lastConfig ∧ s.sources = lastSources ∧ s.context.keywords = context.keywords ∧
        s.context.mapper.registry = context.mapper.registry) ∧
      s.scheduler.waiting.map Waiting.deadline = (waitingSince delay events).map (· + delay) ∧
      (∀ now, (s.tick now).1.isSome ↔
        s.scheduler.waiting.isSome ∧
          ∃ changed, lastChange events = some changed ∧ changed + delay ≤ now) ∧
      (∀ now, (s.tick now).1 = none → (s.tick now).2 = s) ∧
      (∀ now ticket, (s.scheduler.fire now).1 = some ticket →
        ((s.scheduler.fire now).2.complete ticket).1 = true) ∧
      (∀ now output, (s.tick now).1 = some output →
        output = (renderOutput lastConfig context lastSources).1 ∧
          (s.tick now).2.output = some output ∧ (s.tick now).2.scheduler.waiting = none) ∧
      (s.scheduler.waiting = none → (lastChange events).isSome →
        s.output = some (renderOutput s.config s.context s.sources).1 ∧
          (renderOutput s.config s.context s.sources).2 = s.context ∧
          s.output = some (renderOutput lastConfig context lastSources).1) := by
  intro s lastConfig lastSources
  have h : UpToDate delay (waitingSince delay events) (lastChange events) s :=
    upToDate_run config context delay events
  have hconfig : s.config = lastConfig := config_run _ events
  have hsources : s.sources = lastSources := sources_run _ events
  have hcontext : (renderOutput s.config s.context s.sources).1 =
      (renderOutput lastConfig context lastSources).1 := by
    rw [hconfig, hsources]
    exact renderOutput_run _ events lastConfig lastSources
  obtain ⟨names, hnames⟩ := (start config context delay).context_run events
  refine ⟨⟨hconfig, hsources, ?_, ?_⟩, h.deadline, h.tick_isSome_iff, fun _ => h.tick_eq_none,
    fun _ _ => h.accepted, fun _ _ htick => ?_, fun hrest hchanged => ?_⟩
  · exact (congrArg Context.keywords hnames).trans (Context.keywords_lookAll context names)
  · exact (congrArg (·.mapper.registry) hnames).trans (Context.registry_lookAll context names)
  · obtain ⟨houtput, hshown⟩ := h.tick_eq_some htick
    exact ⟨houtput.trans hcontext, hshown⟩
  · obtain ⟨output, hshown, hpass⟩ := h.shown hrest hchanged
    rw [← hcontext, hpass]
    exact ⟨hshown, rfl, hshown⟩

/-- Inputs that are shown, then other inputs, and other settings at an earlier time: a tick that
comes too soon shows neither, the next one both. -/
theorem preview_current_after_delay :
    let card (gap : Text) : Json := .object
      [("card-gap", .object [("$type", .string "dimension"), ("$value", .string gap)])]
    let sources (gap : Text) : List Source := [⟨"a.json", some (card gap)⟩]
    let custom : Config := { Config.default with mode := .properties }
    let x := Context.of ⟨["gap"]⟩ .defaults
    let events : List Event := [.setSources (sources "4px") 0, .tick 100,
      .setSources (sources "8px") 200, .setConfig custom 150, .tick 249]
    let s := (start .default x 100).run events
    let later := (start .default x 100).run (events ++ [.tick 250])
    (s.tick 249).1 = none ∧ (s.tick 250).1.isSome ∧
      later.config = custom ∧ later.sources = sources "8px" ∧ later.scheduler.waiting = none ∧
      later.output = some (renderOutput custom later.context (sources "8px")).1 ∧
      later.output.map Output.text = some (":root \x7b\n  --card-gap: 8px;\n\x7d\n" : Text) := by
  intro card sources custom x events
  dsimp only
  -- the change at 150 is the last one, though not the latest, and it is due at 250
  obtain ⟨-, hwaiting, hfires, -⟩ := preview_at_rest_is_current .default x 100 events
  have hwaits : ((start .default x 100).run events).scheduler.waiting.isSome := by
    rw [← Option.isSome_map (f := Waiting.deadline), hwaiting]
    rfl
  have hsoon : ¬(((start .default x 100).run events).tick 249).1.isSome := by
    rw [hfires 249]
    rintro ⟨-, changed, hlast, hle⟩
    cases hlast
    exact absurd hle (by decide)
  obtain ⟨⟨hconfig, hsources, -⟩, hnone, -, -, -, -, hrest⟩ :=
    preview_at_rest_is_current .default x 100 (events ++ [.tick 250])
  have hidle := Option.map_eq_none_iff.mp (hnone.trans rfl)
  obtain ⟨hshown, -, hstart⟩ := hrest hidle rfl
  refine ⟨Option.not_isSome_iff_eq_none.mp hsoon, (hfires 250).mpr ⟨hwaits, 150, rfl, by decide⟩,
    hconfig, hsources, hidle, ?_, ?_⟩
  · rw [hshown, hconfig, hsources]
    rfl
  · rw [hstart]
    decide +kernel

end DesignTokens.Session
