import DesignTokens.Proofs.Preview.Calls
import DesignTokens.Proofs.Preview.Tickets
import Mathlib.Data.List.Nodup

/-!
Debouncing is exact. A scheduler keeps one waiting change, and the history says which one it is: the
last change that was made, unless it has fired.

    changes   c₁ c₂ … cₙ        tickets go upwards
    fired     some of them      each once, none that was superseded before
    waiting   cₙ, due at its time plus the delay     if cₙ has not fired
              nothing                                if it has, or if there are no changes

The invariant (`Tracks`) ties the slot to the two logs and is kept by each call. What a call answers
in any run follows from it, with a clock that may go back and with passes reported in any order.
-/

namespace DesignTokens.Scheduler

/-- A scheduler in which changes were made and tickets have fired: it waits for the last change,
unless that one has fired. -/
structure Tracks (delay : Nat) (changes : List Change) (fired : List Ticket) (s : Scheduler) :
    Prop where
  delay_eq : s.delay = delay
  upwards : changes.Pairwise (·.ticket < ·.ticket)
  change_le : ∀ c ∈ changes, c.ticket ≤ s.issued
  fired_le : ∀ ticket ∈ fired, ticket ≤ s.issued
  once : fired.Nodup
  waiting_iff : ∀ w, s.waiting = some w ↔ ∃ c, changes.getLast? = some c ∧ c.ticket ∉ fired ∧
    w = ⟨c.ticket, c.since + delay⟩

theorem tracks_start (delay : Nat) : Tracks delay [] [] (start delay) where
  delay_eq := rfl
  upwards := List.Pairwise.nil
  change_le _ hc := absurd hc List.not_mem_nil
  fired_le _ ht := absurd ht List.not_mem_nil
  once := List.nodup_nil
  waiting_iff w := by simp [start]

variable {delay : Nat} {changes : List Change} {fired : List Ticket} {s : Scheduler}

namespace Tracks

/-- A new change takes the slot, whatever was in it. -/
theorem schedule (h : Tracks delay changes fired s) (now : Nat) :
    Tracks delay (changes ++ [⟨(s.schedule now).1, now⟩]) fired (s.schedule now).2 where
  delay_eq := h.delay_eq
  upwards := by
    refine List.pairwise_append.mpr ⟨h.upwards, List.pairwise_singleton _ _, fun c hc d hd => ?_⟩
    rw [List.mem_singleton.mp hd]
    exact Nat.lt_succ_of_le (h.change_le c hc)
  change_le c hc := by
    rcases List.mem_append.mp hc with hc | hc
    · exact Nat.le_succ_of_le (h.change_le c hc)
    · rw [List.mem_singleton.mp hc]
      exact Nat.le_refl _
  fired_le ticket ht := Nat.le_succ_of_le (h.fired_le ticket ht)
  once := h.once
  waiting_iff w := by
    have hnew : (s.schedule now).1 ∉ fired := fun hmem =>
      absurd (h.fired_le _ hmem) (Nat.not_succ_le_self _)
    have hslot : (s.schedule now).2.waiting = some ⟨(s.schedule now).1, now + delay⟩ := by
      rw [← h.delay_eq]
      rfl
    rw [hslot, List.getLast?_concat, Option.some.injEq]
    constructor
    · rintro rfl
      exact ⟨_, rfl, hnew, rfl⟩
    · rintro ⟨c, hc, -, rfl⟩
      cases hc
      rfl

/-- The change that waits is the last one and has not fired. -/
theorem exists_of_waiting (h : Tracks delay changes fired s) {w : Waiting}
    (hw : s.waiting = some w) :
    ∃ c, changes.getLast? = some c ∧ c.ticket = w.ticket ∧ c.ticket ∉ fired := by
  obtain ⟨c, hlast, hnot, rfl⟩ := (h.waiting_iff w).mp hw
  exact ⟨c, hlast, rfl, hnot⟩

/-- A change that fires leaves the slot empty. -/
theorem fire (h : Tracks delay changes fired s) {w : Waiting} (hw : s.waiting = some w) :
    Tracks delay changes (fired ++ [w.ticket]) { s with waiting := none } where
  delay_eq := h.delay_eq
  upwards := h.upwards
  change_le := h.change_le
  fired_le ticket ht := by
    obtain ⟨c, hlast, hc, -⟩ := h.exists_of_waiting hw
    rcases List.mem_append.mp ht with ht | ht
    · exact h.fired_le ticket ht
    · rw [List.mem_singleton.mp ht, ← hc]
      exact h.change_le c (List.mem_of_getLast? hlast)
  once := by
    obtain ⟨c, -, hc, hnot⟩ := h.exists_of_waiting hw
    refine List.nodup_append.mpr ⟨h.once, List.nodup_singleton _, fun a ha b hb hab => hnot ?_⟩
    rw [hc, ← List.mem_singleton.mp hb, ← hab]
    exact ha
  waiting_iff w' := by
    obtain ⟨c, hlast, hc, -⟩ := h.exists_of_waiting hw
    refine iff_of_false (by simp) ?_
    rintro ⟨c', hlast', hnot, -⟩
    rw [hlast] at hlast'
    cases hlast'
    exact hnot (by simp [hc])

/-- A report says nothing about what waits. -/
theorem complete (h : Tracks delay changes fired s) (ticket : Ticket) :
    Tracks delay changes fired (s.complete ticket).2 where
  delay_eq := by rw [delay_complete, h.delay_eq]
  upwards := h.upwards
  change_le := by rw [issued_complete]; exact h.change_le
  fired_le := by rw [issued_complete]; exact h.fired_le
  once := h.once
  waiting_iff := by rw [waiting_complete]; exact h.waiting_iff

/-- Every call keeps the slot in line with the logs. -/
theorem after (h : Tracks delay changes fired s) (call : Call) :
    Tracks delay (changes ++ (s.change? call).toList) (fired ++ (s.fired? call).toList)
      (s.after call) := by
  cases call with
  | schedule now => simpa [change?, fired?, Scheduler.after] using h.schedule now
  | fire now =>
    rcases s.due_or_not now with ⟨w, hw, hd⟩ | hnot
    · simpa [change?, fired?, Scheduler.after, fire_of_due hw hd] using h.fire hw
    · simpa [change?, fired?, Scheduler.after, fire_of_not_due hnot] using h
  | remaining now => simpa [change?, fired?, Scheduler.after] using h
  | complete ticket => simpa [change?, fired?, Scheduler.after] using h.complete ticket

end Tracks

theorem tracks_run (delay : Nat) (calls : List Call) :
    Tracks delay ((start delay).changes calls) ((start delay).fired calls)
      ((start delay).run calls) := by
  induction calls using List.reverseRecOn with
  | nil => exact tracks_start delay
  | append_singleton calls call ih =>
    rw [run_concat, Scheduler.changes, Scheduler.fired, log_concat, log_concat]
    exact ih.after call

/-! ### What calls answer -/

/-- What fires is the change that waits, once it is due. -/
theorem fire_eq_some_iff {now : Nat} {ticket : Ticket} :
    (s.fire now).1 = some ticket ↔
      ∃ w, s.waiting = some w ∧ w.ticket = ticket ∧ w.deadline ≤ now := by
  rcases s.due_or_not now with ⟨w, hw, hd⟩ | hnot
  · rw [fire_of_due hw hd, hw]
    simp [hd]
  · rw [fire_of_not_due hnot]
    refine iff_of_false (by simp) ?_
    rintro ⟨w, hw, -, hd⟩
    exact absurd (hnot w hw) (Nat.not_lt.mpr hd)

/-- No time is left exactly when the change fires. -/
theorem remaining?_eq_zero_iff {now : Nat} :
    s.remaining? now = some 0 ↔ (s.fire now).1.isSome := by
  rw [Option.isSome_iff_exists]
  simp only [fire_eq_some_iff, remaining?, Option.map_eq_some_iff]
  constructor
  · rintro ⟨w, hw, hzero⟩
    exact ⟨w.ticket, w, hw, rfl, Nat.sub_eq_zero_iff_le.mp hzero⟩
  · rintro ⟨_, w, hw, -, hd⟩
    exact ⟨w, hw, Nat.sub_eq_zero_iff_le.mpr hd⟩

namespace Tracks

/-- What fires is the last change, if it has not fired and its delay has passed. -/
theorem fire_iff (h : Tracks delay changes fired s) {now : Nat} {ticket : Ticket} :
    (s.fire now).1 = some ticket ↔
      ∃ since, changes.getLast? = some ⟨ticket, since⟩ ∧ ticket ∉ fired ∧ since + delay ≤ now := by
  rw [fire_eq_some_iff]
  constructor
  · rintro ⟨w, hw, rfl, hd⟩
    obtain ⟨c, hlast, hnot, rfl⟩ := (h.waiting_iff w).mp hw
    exact ⟨c.since, hlast, hnot, hd⟩
  · rintro ⟨since, hlast, hnot, hd⟩
    exact ⟨⟨ticket, since + delay⟩, (h.waiting_iff _).mpr ⟨_, hlast, hnot, rfl⟩, rfl, hd⟩

/-- Nothing waits when the last change has fired, or when there are no changes. -/
theorem waiting_eq_none_iff (h : Tracks delay changes fired s) :
    s.waiting = none ↔ ∀ c, changes.getLast? = some c → c.ticket ∈ fired := by
  constructor
  · intro hnone c hlast
    by_contra hnot
    rw [(h.waiting_iff _).mpr ⟨c, hlast, hnot, rfl⟩] at hnone
    cases hnone
  · intro hall
    rw [Option.eq_none_iff_forall_ne_some]
    intro w hw
    obtain ⟨c, hlast, hnot, -⟩ := (h.waiting_iff w).mp hw
    exact hnot (hall c hlast)

end Tracks

/-- A change that was superseded does not fire any more: what fires is the last change at that time,
and that one is newer. -/
theorem superseded_not_fired (delay : Nat) (calls : List Call) (now : Nat) (more : List Call)
    {c : Change} (hc : c ∈ (start delay).changes calls) :
    c.ticket ∉ (((start delay).run calls).schedule now).2.fired more := by
  intro hfired
  obtain ⟨before, call, later, -, hcall⟩ := exists_call_of_mem_log hfired
  cases call with
  | schedule | remaining | complete => cases hcall
  | fire now' =>
    -- the log of changes up to that time: those before, the one that superseded, and later ones
    let s := (start delay).run calls
    have hrun : (start delay).run (calls ++ .schedule now :: before) =
        (s.schedule now).2.run before := run_append ..
    have hlog : (start delay).changes (calls ++ .schedule now :: before) =
        (start delay).changes calls ++
          ⟨(s.schedule now).1, now⟩ :: (s.schedule now).2.changes before := log_append ..
    have htracks := tracks_run delay (calls ++ .schedule now :: before)
    rw [hrun, hlog] at htracks
    obtain ⟨since, hlast, -, -⟩ := htracks.fire_iff.mp hcall
    obtain ⟨-, -, hnewer⟩ := List.pairwise_append.mp htracks.upwards
    rw [List.getLast?_append_cons] at hlast
    have hlt := hnewer c hc _ (List.mem_of_getLast? hlast)
    exact Nat.lt_irrefl _ hlt

/-- Debouncing is exact in every run, whatever the clock does: tickets go upwards; what fires is the
last change, if it has not fired before and its delay has passed since it was made, so that no
ticket fires twice and none that was superseded fires at all; no time is left to wait exactly when
nothing waits, and none remains exactly when the change would fire; and reporting a pass leaves what
waits alone. -/
theorem debouncing_is_exact (delay : Nat) (calls : List Call) :
    let s := (start delay).run calls
    let changes := (start delay).changes calls
    let fired := (start delay).fired calls
    (∀ now, ∀ c ∈ changes, c.ticket < (s.schedule now).1) ∧
      (∀ now ticket, (s.fire now).1 = some ticket ↔ ∃ since,
        changes.getLast? = some ⟨ticket, since⟩ ∧ ticket ∉ fired ∧ since + delay ≤ now) ∧
      fired.Nodup ∧
      (∀ now more, ∀ c ∈ changes, c.ticket ∉ (s.schedule now).2.fired more) ∧
      (s.waiting = none ↔ ∀ c, changes.getLast? = some c → c.ticket ∈ fired) ∧
      (∀ now, s.remaining? now = none ↔ s.waiting = none) ∧
      (∀ now, s.remaining? now = some 0 ↔ (s.fire now).1.isSome) ∧
      ∀ ticket, (s.complete ticket).2.waiting = s.waiting := by
  intro s changes fired
  have h : Tracks delay changes fired s := tracks_run delay calls
  refine ⟨fun now c hc => ?_, fun _ _ => h.fire_iff, h.once, fun now more c hc => ?_,
    h.waiting_eq_none_iff, fun _ => Option.map_eq_none_iff, fun _ => remaining?_eq_zero_iff,
    waiting_complete s⟩
  · exact Nat.lt_succ_of_le (h.change_le c hc)
  · exact superseded_not_fired delay calls now more hc

/-- Of two changes within the delay the second one fires, once its own delay has passed, and the
first one never does, also not when the clock goes back. -/
theorem debounced_second_change_fires :
    let s := (start 500).run [.schedule 0, .schedule 300, .fire 600, .complete 1]
    (s.fire 600).1 = none ∧ (s.fire 800).1 = some 2 ∧ s.remaining? 800 = some 0 ∧
      1 ∉ (s.schedule 200).2.fired [.fire 100, .fire 900] := by
  intro s
  obtain ⟨-, hfire, -, hsuperseded, -, -, hzero, -⟩ :=
    debouncing_is_exact 500 [.schedule 0, .schedule 300, .fire 600, .complete 1]
  have hsecond : (s.fire 800).1 = some 2 :=
    (hfire 800 2).mpr ⟨300, by decide, by decide, by decide⟩
  refine ⟨?_, hsecond, (hzero 800).mpr (by rw [hsecond]; rfl), ?_⟩
  · refine Option.eq_none_iff_forall_ne_some.mpr fun ticket hticket => ?_
    obtain ⟨since, hlast, -, hd⟩ := (hfire 600 ticket).mp hticket
    cases hlast
    exact absurd hd (by decide)
  · exact hsuperseded 200 [.fire 100, .fire 900] ⟨1, 0⟩ (by decide)

end DesignTokens.Scheduler
