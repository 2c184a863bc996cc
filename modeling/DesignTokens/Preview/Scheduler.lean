/-!
Debouncing. Every change is given a ticket, numbered upwards, and takes the place of the change that
was waiting; a waiting change is due when its delay has passed. Finished passes report their
tickets, and a pass older than the newest one reported is turned away. Times are milliseconds and
may go back.
-/

namespace DesignTokens

/-- The number of a change. -/
abbrev Ticket := Nat

/-- A change that waits, and the time from which on it is due. -/
structure Waiting where
  ticket : Ticket
  deadline : Nat
  deriving DecidableEq

/-- The changes so far: how many there were, which one waits, and the newest one that is done. -/
structure Scheduler where
  delay : Nat
  issued : Nat
  waiting : Option Waiting
  applied : Option Ticket
  deriving DecidableEq

namespace Scheduler

/-- No changes yet. -/
def start (delay : Nat) : Scheduler := ⟨delay, 0, none, none⟩

/-- A change at a time: it gets the next ticket and waits alone. -/
def schedule (s : Scheduler) (now : Nat) : Ticket × Scheduler :=
  (s.issued + 1, { s with issued := s.issued + 1, waiting := some ⟨s.issued + 1, now + s.delay⟩ })

/-- How long the waiting change still has to wait. -/
def remaining? (s : Scheduler) (now : Nat) : Option Nat := s.waiting.map (·.deadline - now)

/-- The waiting change, taken out if it is due. -/
def fire (s : Scheduler) (now : Nat) : Option Ticket × Scheduler :=
  match s.waiting with
  | some w => if w.deadline ≤ now then (some w.ticket, { s with waiting := none }) else (none, s)
  | none => (none, s)

/-- Reports a finished pass; whether it is newer than all reported before. -/
def complete (s : Scheduler) (ticket : Ticket) : Bool × Scheduler :=
  if s.applied.any (ticket ≤ ·) then (false, s) else (true, { s with applied := some ticket })

end Scheduler

end DesignTokens
