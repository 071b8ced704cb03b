import TriggerFlow.Engine.Run
import TriggerFlow.Execution.Document

/-!
What tenants do with their workflows. Changes of definitions go through the rules of activation and
executions through the engine, inline or in the background. A store that fails is reported as such;
the engine's own errors pass through.
-/

namespace TriggerFlow.Service

open Engine

/-- A call to the store whose failures are wrapped, unless they are errors of the engine. That no
answer came is none that a call could be blamed for. -/
def guarded (action : String) (workflow : Option String) (c : Store.Call) :
    Work (Store.Reply c) := do
  match ← store c with
  | .ok r => return .ok r
  | .error (.engine e) => return .error (.engine e)
  | .error .noAnswer => return .error .noAnswer
  | .error f => return .error (.engine (.persistence action f.message workflow))

def getWorkflow (tenant id : String) : Work (Except Failure Workflow) := do
  match ← guarded "load workflow" (some id) (.getWorkflow id tenant) with
  | .error f => return .error f
  | .ok none => return .error (.engine (.workflowNotFound (some id)))
  | .ok (some w) => return .ok w

def ofDraft (tenant : String) (d : Draft) (creator : Option String) : Workflow :=
  { d.toGraph with
    id := none
    tenant := tenant
    name := d.name
    description := d.description
    status := d.status.getD .draft
    tags := d.tags
    runCount := 0
    lastRun := none
    createdBy := creator
    createdAt := none
    updatedAt := none }

def createWorkflow (tenant : String) (d : Draft) (creator : Option String) :
    Work (Except Failure Workflow) := do
  let w := ofDraft tenant d creator
  match w.checkIfActive with
  | .error f => return .error f
  | .ok _ =>
    match ← guarded "create workflow" none (.createWorkflow w) with
    | .error .noAnswer => return .error (.nothingHas "id")
    | r => return r

def listWorkflows (tenant : String) (status search : Option String) :
    Work (Except Failure (List Workflow)) :=
  guarded "list workflows" none (.listWorkflows tenant status search)

/-- The workflow with the changes made, read anew as a whole document. -/
def changed (c : Changes) (w : Workflow) : Except Failure Workflow :=
  (Workflow.read .data (c.apply w).document).toExcept

def updateWorkflow (tenant id : String) (c : Changes) : Work (Except Failure Workflow) := do
  match ← getWorkflow tenant id with
  | .error f => return .error f
  | .ok current =>
    match (do let w ← changed c current; w.checkIfActive; return w) with
    | .error f => return .error f
    | .ok w => guarded "update workflow" (some id) (.updateWorkflow w)

def deleteWorkflow (tenant id : String) : Work (Except Failure Unit) := do
  match ← guarded "delete workflow" (some id) (.deleteWorkflow id tenant) with
  | .error .noAnswer => return .error (.engine (.workflowNotFound (some id)))
  | .error f => return .error f
  | .ok false => return .error (.engine (.workflowNotFound (some id)))
  | .ok true => return .ok ()

def toggleStatus (tenant id : String) : Work (Except Failure Workflow) := do
  match ← getWorkflow tenant id with
  | .error f => return .error f
  | .ok w =>
    match w.toggled with
    | .error f => return .error f
    | .ok w => guarded "update workflow" (some id) (.updateWorkflow w)

def duplicateWorkflow (tenant id : String) (creator : Option String) :
    Work (Except Failure Workflow) := do
  match ← getWorkflow tenant id with
  | .error f => return .error f
  | .ok w =>
    freshId.bind fun fresh =>
      guarded "create workflow" (some id) (.createWorkflow (w.copy fresh creator))

def portable (w : Workflow) : Portable :=
  { w.toGraph with
    name := w.name
    description := w.description
    tags := w.tags }

def exportWorkflow (tenant id : String) : Work (Except Failure Portable) := do
  return (← getWorkflow tenant id).map portable

/-- The draft of a definition that was carried here, whose name is read as that of a new draft. -/
def draftOf (p : Portable) : Except Failure Draft :=
  ((Schema.nonemptyText (.str p.name)).under (.key "name")).toExcept.map fun name =>
    { p.toGraph with
      name := name
      description := p.description
      status := none
      tags := p.tags }

def importWorkflow (tenant : String) (p : Portable) (creator : Option String) :
    Work (Except Failure Workflow) :=
  match draftOf p with
  | .error f => pure (.error f)
  | .ok d => createWorkflow tenant d creator

/-- The part of a background task that runs an execution; how it ends shows in the store only. -/
def runInBackground (w : Workflow) (e : Execution) : Work Unit := do
  let _ ← run w alone e
  leaveBackground e.id

/-- Execute a workflow: to its end, or up to a running record whose run goes on in the
background. -/
def execute (tenant id : String) (request : RunRequest) : Work (Except Failure Execution) := do
  match ← getWorkflow tenant id with
  | .error f => return .error f
  | .ok w =>
    if request.background then
      match ← prepare w request.triggerData with
      | .error f => return .error f
      | .ok e =>
        startInBackground w e
        return .ok e
    else Engine.execute w request.triggerData

structure Settings where
  /-- How many executions are listed when no limit is asked for. -/
  executionLimit : Int
  deriving DecidableEq, Repr

/-- No limit, or a limit of zero, means the usual one. -/
def limitOf (s : Settings) : Option Int → Int
  | some n => if n = 0 then s.executionLimit else n
  | none => s.executionLimit

def listExecutions (s : Settings) (tenant workflow : String) (limit : Option Int) :
    Work (Except Failure (List Execution)) := do
  match ← getWorkflow tenant workflow with
  | .error f => return .error f
  | .ok _ =>
    guarded "list executions" (some workflow) (.listExecutions workflow tenant (limitOf s limit))

def getExecution (tenant id : String) : Work (Except Failure Execution) := do
  match ← guarded ("load execution " ++ id) none (.getExecution id tenant) with
  | .error f => return .error f
  | .ok none => return .error (.engine (.executionNotFound id))
  | .ok (some e) => return .ok e

def notRunning (e : Execution) : Failure :=
  .engine (.executionNotRunning (some e.status.name) e.workflow)

/-- Cancel an execution. A run of this process is asked to stop and waited for; a record that
nothing runs any more is closed directly. -/
def cancelExecution (tenant id : String) : Work (Except Failure Execution) := do
  match ← getExecution tenant id with
  | .error f => return .error f
  | .ok e =>
    if e.isFinished then return .error (notRunning e)
    if ← requestCancel id then
      awaitFinished id
      match ← getExecution tenant id with
      | .error f => return .error f
      | .ok finished =>
        if finished.status = .cancelled then return .ok finished
        else return .error (notRunning finished)
    else
      let finish ← now
      match ← guarded ("cancel execution " ++ id) (some e.workflow)
          (.markCancelled id tenant finish) with
      | .error f => return .error f
      | .ok none => return .error (.engine (.executionNotRunning none e.workflow))
      | .ok (some cancelled) => return .ok cancelled

def close : Work Unit := awaitBackground

end TriggerFlow.Service
