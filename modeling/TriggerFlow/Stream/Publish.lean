import TriggerFlow.Execution.Basic
import TriggerFlow.Json.Writer
import TriggerFlow.Program
import TriggerFlow.Stream.Table

/-!
Publishing messages about executions. A message goes to everyone who listens when publishing
starts; others may come and go while it is being sent. The message of a final status is the last
one of its execution.
-/

namespace TriggerFlow.Stream

inductive Call where
  | accept (s : Socket)
  | attach (execution : String) (s : Socket)
  | detach (execution : String) (s : Socket)
  | subscribers (execution : String)
  | send (s : Socket) (text : String)
  | settle (execution : String) (last : Bool) (dead : List Socket)

def Reply : Call → Type
  | .subscribers _ => List Socket
  | .send _ _ => Except Failure Unit
  | _ => Unit

abbrev Task := Program Call Reply

def accept (s : Socket) : Task Unit := Program.ask (Call.accept s)

def attach (execution : String) (s : Socket) : Task Unit := Program.ask (Call.attach execution s)

def detach (execution : String) (s : Socket) : Task Unit := Program.ask (Call.detach execution s)

def subscribers (execution : String) : Task (List Socket) :=
  Program.ask (Call.subscribers execution)

def send (s : Socket) (text : String) : Task (Except Failure Unit) :=
  Program.ask (Call.send s text)

def settle (execution : String) (last : Bool) (dead : List Socket) : Task Unit :=
  Program.ask (Call.settle execution last dead)

/-- Accept a socket and let it listen to an execution. -/
def subscribe (s : Socket) (execution : String) : Task Unit := do
  accept s
  attach execution s

def unsubscribe (s : Socket) (execution : String) : Task Unit := detach execution s

/-- Send a text to one socket after the other; those that fail are given back. -/
def sendEach (text : String) : List Socket → Task (List Socket)
  | [] => pure []
  | s :: rest => do
    match ← send s text with
    | .ok _ => sendEach text rest
    | .error _ => return s :: (← sendEach text rest)

def isFinalStatus (name : String) : Bool :=
  (ExecutionStatus.ofName? name).any (· != .running)

/-- Whether a message is the last one of its execution. A status has to be something that can be
looked up. -/
def isLast : Value → Except Failure Bool
  | .obj message =>
    match Fields.get? message "type", Fields.get? message "status" with
    | some (.str "status"), some (.str s) => .ok (isFinalStatus s)
    | some (.str "status"), some (.arr _) => .error (.output (.badKey "list"))
    | some (.str "status"), some (.obj _) => .error (.output (.badKey "dict"))
    | _, _ => .ok false
  | v => .error (.lacks v.typeName "get")

/-- Send a message to everyone who listens to an execution and count whom it reached. -/
def publish (execution : String) (message : Value) : Task (Except Failure Nat) := do
  let sockets ← subscribers execution
  if sockets.isEmpty then return .ok 0
  match Json.write .spaced message with
  | .error f => return .error f
  | .ok text =>
    let dead ← sendEach text sockets
    match isLast message with
    | .error f => return .error f
    | .ok last =>
      settle execution last dead
      return .ok (sockets.length - dead.length)

/-- The message about an event of an execution. -/
def updateMessage (execution event : String) (data : Fields) : Fields :=
  Fields.overlay [("type", .str event), ("execution_id", .str execution)] data

/-- Publish an event of an execution; its data has to be an object. -/
def update (execution event : String) : Value → Task (Except Failure Nat)
  | .obj data => publish execution (.obj (updateMessage execution event data))
  | v => pure (.error (.notMapping v.typeName))

end TriggerFlow.Stream
