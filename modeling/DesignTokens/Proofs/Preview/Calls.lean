import DesignTokens.Preview.Scheduler
import Mathlib.Data.List.Induction

/-!
Schedulers in use. A scheduler is called in any order and at any times, also times that go back, and
passes are reported in any order, whether they have fired or not:

    schedule at t   ──▶  a change            (logged with its ticket and t)
    fire at now     ──▶  a ticket, or none   (logged if there is one)
    remaining       ──▶  nothing changes
    complete        ──▶  a ticket is done    (in the calls themselves)

The state keeps one waiting change and a count. What happened in a run is read off its log (`log`):
the changes that it made and the tickets that it fired, in their order.
-/

namespace DesignTokens.Scheduler

/-- What a scheduler can be asked to do. -/
inductive Call where
  | schedule (now : Nat)
  | fire (now : Nat)
  | remaining (now : Nat)
  | complete (ticket : Ticket)
  deriving DecidableEq

/-- The scheduler after a call. -/
def after (s : Scheduler) : Call → Scheduler
  | .schedule now => (s.schedule now).2
  | .fire now => (s.fire now).2
  | .remaining _ => s
  | .complete ticket => (s.complete ticket).2

/-- The scheduler after calls, one after the other. -/
def run (s : Scheduler) (calls : List Call) : Scheduler := calls.foldl after s

theorem run_append (s : Scheduler) (calls more : List Call) :
    s.run (calls ++ more) = (s.run calls).run more := List.foldl_append ..

theorem run_concat (s : Scheduler) (calls : List Call) (call : Call) :
    s.run (calls ++ [call]) = (s.run calls).after call := run_append s calls [call]

/-! ### Logs -/

/-- A change that was made: its ticket and its time. -/
structure Change where
  ticket : Ticket
  since : Nat
  deriving DecidableEq

/-- The change that a call makes. -/
def change? (s : Scheduler) : Call → Option Change
  | .schedule now => some ⟨(s.schedule now).1, now⟩
  | _ => none

/-- The ticket that a call fires. -/
def fired? (s : Scheduler) : Call → Option Ticket
  | .fire now => (s.fire now).1
  | _ => none

/-- What is seen of calls, one after the other. -/
def log {α : Type} (seen : Scheduler → Call → Option α) (s : Scheduler) : List Call → List α
  | [] => []
  | call :: rest => (seen s call).toList ++ log seen (s.after call) rest

/-- The changes that calls make, in order. -/
def changes (s : Scheduler) (calls : List Call) : List Change := log change? s calls

/-- The tickets that calls fire, in order. -/
def fired (s : Scheduler) (calls : List Call) : List Ticket := log fired? s calls

section
variable {α : Type} {seen : Scheduler → Call → Option α}

theorem log_append (s : Scheduler) (calls more : List Call) :
    log seen s (calls ++ more) = log seen s calls ++ log seen (s.run calls) more := by
  induction calls generalizing s with
  | nil => rfl
  | cons call calls ih =>
    rw [List.cons_append, log, log, ih, List.append_assoc]
    rfl

theorem log_concat (s : Scheduler) (calls : List Call) (call : Call) :
    log seen s (calls ++ [call]) = log seen s calls ++ (seen (s.run calls) call).toList := by
  rw [log_append, log, log, List.append_nil]

/-- Whatever is in a log was seen at one of the calls. -/
theorem exists_call_of_mem_log {s : Scheduler} {calls : List Call} {a : α}
    (h : a ∈ log seen s calls) :
    ∃ before call later, calls = before ++ call :: later ∧ seen (s.run before) call = some a := by
  induction calls generalizing s with
  | nil => exact absurd h List.not_mem_nil
  | cons call calls ih =>
    rcases List.mem_append.mp h with hnow | hlater
    · exact ⟨[], call, calls, rfl, Option.mem_toList.mp hnow⟩
    · obtain ⟨before, call', later, rfl, hseen⟩ := ih hlater
      exact ⟨call :: before, call', later, rfl, hseen⟩

end

/-! ### What a report leaves alone -/

section
variable (s : Scheduler) (ticket : Ticket)

@[simp] theorem delay_complete : (s.complete ticket).2.delay = s.delay := by
  unfold complete
  split <;> rfl

@[simp] theorem issued_complete : (s.complete ticket).2.issued = s.issued := by
  unfold complete
  split <;> rfl

@[simp] theorem waiting_complete : (s.complete ticket).2.waiting = s.waiting := by
  unfold complete
  split <;> rfl

end

end DesignTokens.Scheduler
