import TriggerFlow.Engine.Call
import TriggerFlow.Store.Keyed

/-!
The registry of live runs. A run holds a ticket while it is registered; cancel requests and the end
of the run are marked on the ticket.
-/

namespace TriggerFlow.Engine

structure Mark where
  cancelled : Bool
  finished : Bool
  deriving DecidableEq, Repr

structure Runs where
  active : Keyed Ticket
  marks : List Mark
  deriving Repr

namespace Runs

def empty : Runs := ⟨[], []⟩

def ticket? (r : Runs) (execution : String) : Option Ticket := r.active.get? execution

def register (r : Runs) (execution : String) : Ticket × Runs :=
  (r.marks.length, ⟨r.active.put execution r.marks.length, r.marks ++ [⟨false, false⟩]⟩)

def attach (r : Runs) (execution : String) : Ticket × Runs :=
  match r.ticket? execution with
  | some t => (t, r)
  | none => r.register execution

def release (r : Runs) (execution : String) (t : Ticket) : Runs :=
  ⟨r.active.erase execution, r.marks.modify t fun m => { m with finished := true }⟩

def requestCancel (r : Runs) (execution : String) : Bool × Runs :=
  match r.ticket? execution with
  | some t => (true, { r with marks := r.marks.modify t fun m => { m with cancelled := true } })
  | none => (false, r)

def isCancelled (r : Runs) (t : Ticket) : Bool := r.marks[t]?.any (·.cancelled)

def isFinished (r : Runs) (t : Ticket) : Bool := r.marks[t]?.all (·.finished)

end Runs
end TriggerFlow.Engine
