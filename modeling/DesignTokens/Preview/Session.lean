import DesignTokens.Preview.Scheduler
import DesignTokens.Render.Output

/-!
A live preview: settings, inputs and a context, of which every change is scheduled, and the output
of the last pass. A tick makes the pass of the waiting change if it is due.
-/

namespace DesignTokens

/-- What a preview shows and what it is made of. -/
structure Session where
  scheduler : Scheduler
  config : Config
  sources : List Source
  context : Context
  output : Option Output

namespace Session

/-- A preview without inputs. -/
def start (config : Config) (context : Context) (delay : Nat) : Session :=
  ⟨Scheduler.start delay, config, [], context, none⟩

/-- New settings at a time. -/
def setConfig (s : Session) (config : Config) (now : Nat) : Ticket × Session :=
  let (ticket, scheduler) := s.scheduler.schedule now
  (ticket, { s with scheduler, config })

/-- New inputs at a time. -/
def setSources (s : Session) (sources : List Source) (now : Nat) : Ticket × Session :=
  let (ticket, scheduler) := s.scheduler.schedule now
  (ticket, { s with scheduler, sources })

/-- Makes the waiting pass if it is due; the new output, if one was made and not turned away. -/
def tick (s : Session) (now : Nat) : Option Output × Session :=
  let (fired, scheduler) := s.scheduler.fire now
  match fired with
  | none => (none, s)
  | some ticket =>
    let (output, context) := renderOutput s.config s.context s.sources
    let (accepted, scheduler) := scheduler.complete ticket
    if accepted then (some output, { s with scheduler, context, output := some output })
    else (none, { s with scheduler, context })

end Session

end DesignTokens
