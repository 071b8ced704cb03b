import TriggerFlow.Action.Registry
import TriggerFlow.Engine.Runs
import TriggerFlow.Rehearsal.Database
import TriggerFlow.Rehearsal.Network
import TriggerFlow.Rehearsal.Outage
import TriggerFlow.Rehearsal.Sockets
import TriggerFlow.Rehearsal.StandIn
import TriggerFlow.Store.Memory

/-!
The surroundings of the engine as one state. A call that arrives is answered at once, passes on to
be carried out, or has to wait: an action at a gate, the last save of a run, or someone who waits
for runs to end.
-/

namespace TriggerFlow.Rehearsal

open Engine

inductive Backend where
  | memory
  | database
  deriving DecidableEq, Repr

inductive Dispatcher where
  | registry (r : Action.Registry)
  | standIn (s : StandIn)

inductive Listener where
  | nobody
  | recorder
  | faulty
  | sockets
  deriving DecidableEq, Repr

structure Event where
  execution : String
  kind : String
  data : Fields
  deriving Repr

structure Surroundings where
  sources : Sources
  backend : Backend
  memory : Store.Memory
  database : Database
  outages : Outages
  holdsEnds : Bool
  hasGates : Bool
  runs : Runs
  /-- Records that several runs may work on, as they stand. -/
  shared : Keyed Execution
  started : List (Workflow × Execution)
  background : List String
  dispatcher : Dispatcher
  network : Network
  listener : Listener
  sockets : Sockets
  events : List Event
  saves : List Execution
  invocations : List Invocation

namespace Surroundings

def start (tick : Int) (dispatcher : Dispatcher) : Surroundings where
  sources := .start tick
  backend := .memory
  memory := .empty
  database := .ofScript []
  outages := .none
  holdsEnds := false
  hasGates := true
  runs := .empty
  shared := []
  started := []
  background := []
  dispatcher
  network := .ofScript []
  listener := .nobody
  sockets := .empty
  events := []
  saves := []
  invocations := []

inductive Wait where
  /-- A gate, which is opened from outside; the name is that of the call. -/
  | gate (name : String)
  | ends
  | finished (t : Ticket)
  | background (executions : List String)
  deriving DecidableEq, Repr

def isOver (w : Surroundings) : Wait → Bool
  | .gate _ => false
  | .ends => !w.holdsEnds
  | .finished t => w.runs.isFinished t
  | .background executions => executions.all fun id => !w.background.contains id

inductive Arrival (c : Call) where
  | answered (r : Reply c)
  | passes
  | waits (on : Wait)

def isGated (config : Fields) : Bool :=
  match config.get? "gate" with
  | some (.bool b) => b
  | _ => false

/-- A call waits unless that is over already. -/
def unlessOver (w : Surroundings) {c : Call} (on : Wait) : Arrival c :=
  if w.isOver on then .passes else .waits on

def isEnd : Store.Call → Bool
  | .saveExecution e => e.isFinished
  | _ => false

/-- A record that is shared is written to before it is saved. -/
def write (w : Surroundings) : Store.Call → Surroundings
  | .saveExecution e =>
    if (w.shared.get? e.id).isSome then { w with shared := w.shared.put e.id e } else w
  | _ => w

def arrive (w : Surroundings) : (c : Call) → Arrival c × Surroundings
  | .store c =>
    let (disturbance, outages) := w.outages.arrive c.name
    let w := { w.write c with outages }
    match disturbance with
    | some d => (.answered (d.answer c), w)
    | none => (if isEnd c then w.unlessOver .ends else .passes, w)
  | .invoke a config _ =>
    (if w.hasGates && isGated config then .waits (.gate (callName a.name config)) else .passes, w)
  | .awaitFinished id =>
    (match w.runs.ticket? id with
      | some t => w.unlessOver (.finished t)
      | none => .passes, w)
  | .awaitBackground => (w.unlessOver (.background w.background), w)
  | _ => (.passes, w)

def store (w : Surroundings) (c : Store.Call) : Store.Reply c × Surroundings :=
  match w.backend with
  | .memory =>
    let (r, memory, sources) := w.memory.answer w.sources c
    (r, { w with memory, sources })
  | .database =>
    let (r, database, sources) := (Store.Sql.answer c).run Database.answer (w.database, w.sources)
    (r, { w with database, sources })

def noteSave (w : Surroundings) : Store.Call → Surroundings
  | .saveExecution e => { w with saves := w.saves ++ [e] }
  | _ => w

def storeNoted (w : Surroundings) (c : Store.Call) : Store.Reply c × Surroundings :=
  let (r, w) := w.store c
  (r, if r.isOk then w.noteSave c else w)

/-- A record that is shared is saved as it stands by then. -/
def storeShared (w : Surroundings) : (c : Store.Call) → Store.Reply c × Surroundings
  | .saveExecution e => w.storeNoted (.saveExecution ((w.shared.get? e.id).getD e))
  | c => w.storeNoted c

/-- A record as it stands; from now on it is shared. -/
def latest (w : Surroundings) (e : Execution) : Execution × Surroundings :=
  match w.shared.get? e.id with
  | some l => (l, w)
  | none => (e, { w with shared := w.shared.put e.id e })

def act {α : Type} (w : Surroundings) (t : Action.Task α) : α × Surroundings :=
  let (a, network, sources) := t.run Network.answer (w.network, w.sources)
  (a, { w with network, sources })

def invoke (w : Surroundings) (a : Action) (config : Fields) (context : Value) :
    Except Failure Value × Surroundings :=
  match w.dispatcher with
  | .registry r =>
    let (output, w) := w.act (r.invoke a config context)
    (output.map .obj, w)
  | .standIn s =>
    let name := callName a.name config
    (s.result name,
      { w with invocations := w.invocations ++ [⟨name, a.name, context⟩] })

def notify (w : Surroundings) (execution kind : String) (data : Fields) :
    Except Failure Unit × Surroundings :=
  match w.listener with
  | .nobody => (.ok (), w)
  | .recorder => (.ok (), { w with events := w.events ++ [⟨execution, kind, data⟩] })
  | .faulty => (.error (.external "ListenerFailed" "the listener fails"), w)
  | .sockets =>
    let (r, sockets) := w.sockets.run (Stream.update execution kind (.obj data))
    (r.map fun _ => (), { w with sockets })

def perform (w : Surroundings) : (c : Call) → Reply c × Surroundings
  | .store c => w.storeShared c
  | .now => let (t, sources) := w.sources.now; (t, { w with sources })
  | .freshId => let (id, sources) := w.sources.fresh; (id, { w with sources })
  | .invoke a config context => w.invoke a config context
  | .notify execution kind data => w.notify execution kind data
  | .latest e => w.latest e
  | .register id => let (t, runs) := w.runs.register id; (t, { w with runs })
  | .attach id => let (t, runs) := w.runs.attach id; (t, { w with runs })
  | .release id t => ((), { w with runs := w.runs.release id t })
  | .isCancelled t => (w.runs.isCancelled t, w)
  | .requestCancel id => let (b, runs) := w.runs.requestCancel id; (b, { w with runs })
  | .awaitFinished _ => ((), w)
  | .isRunning id => ((w.runs.ticket? id).isSome, w)
  | .startInBackground v e =>
    ((), { w with started := w.started ++ [(v, e)], background := w.background ++ [e.id] })
  | .leaveBackground id => ((), { w with background := w.background.erase id })
  | .awaitBackground => ((), w)

end Surroundings
end TriggerFlow.Rehearsal
