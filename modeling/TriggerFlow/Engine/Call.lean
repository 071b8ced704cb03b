import TriggerFlow.Program
import TriggerFlow.Store.Call

/-!
What runs and services ask of their surroundings: the store, the clock and the ids, the dispatcher
of actions, the listener to runs, the registry of live runs and the pool of background tasks.
-/

namespace TriggerFlow.Engine

/-- The ticket under which a live run is registered. -/
abbrev Ticket := Nat

inductive Call where
  | store (c : Store.Call)
  | now
  | freshId
  | invoke (action : Action) (config : Fields) (context : Value)
  | notify (execution event : String) (data : Fields)
  /-- The record of a run as it stands, after what other runs of it may have written. -/
  | latest (e : Execution)
  | register (execution : String)
  /-- The ticket of a run, which is registered if it is not yet. -/
  | attach (execution : String)
  | release (execution : String) (ticket : Ticket)
  | isCancelled (ticket : Ticket)
  /-- Ask a registered run to stop; false if there is none. -/
  | requestCancel (execution : String)
  | awaitFinished (execution : String)
  | isRunning (execution : String)
  | startInBackground (w : Workflow) (e : Execution)
  | leaveBackground (execution : String)
  | awaitBackground

def Reply : Call → Type
  | .store c => Store.Reply c
  | .now => Moment
  | .freshId => String
  | .invoke _ _ _ => Except Failure Value
  | .notify _ _ _ => Except Failure Unit
  | .latest _ => Execution
  | .register _ | .attach _ => Ticket
  | .release _ _ => Unit
  | .isCancelled _ => Bool
  | .requestCancel _ => Bool
  | .awaitFinished _ => Unit
  | .isRunning _ => Bool
  | .startInBackground _ _ => Unit
  | .leaveBackground _ => Unit
  | .awaitBackground => Unit

/-- A piece of work of the engine. -/
abbrev Work := Program Call Reply

def store (c : Store.Call) : Work (Store.Reply c) := Program.ask (Call.store c)

def now : Work Moment := Program.ask Call.now

def freshId : Work String := Program.ask Call.freshId

def invoke (a : Action) (config : Fields) (context : Value) : Work (Except Failure Value) :=
  Program.ask (Call.invoke a config context)

/-- Tell the listener; whether it fails does not matter. -/
def notify (execution event : String) (data : Fields) : Work Unit :=
  Program.bind (Program.ask (Call.notify execution event data)) fun _ => pure ()

def latest (e : Execution) : Work Execution := Program.ask (Call.latest e)

def register (execution : String) : Work Ticket := Program.ask (Call.register execution)

def attach (execution : String) : Work Ticket := Program.ask (Call.attach execution)

def release (execution : String) (ticket : Ticket) : Work Unit :=
  Program.ask (Call.release execution ticket)

def isCancelled (ticket : Ticket) : Work Bool := Program.ask (Call.isCancelled ticket)

def requestCancel (execution : String) : Work Bool := Program.ask (Call.requestCancel execution)

def awaitFinished (execution : String) : Work Unit := Program.ask (Call.awaitFinished execution)

def isRunning (execution : String) : Work Bool := Program.ask (Call.isRunning execution)

def startInBackground (w : Workflow) (e : Execution) : Work Unit :=
  Program.ask (Call.startInBackground w e)

def leaveBackground (execution : String) : Work Unit :=
  Program.ask (Call.leaveBackground execution)

def awaitBackground : Work Unit := Program.ask Call.awaitBackground

end TriggerFlow.Engine
