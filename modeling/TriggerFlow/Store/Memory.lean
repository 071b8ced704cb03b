import TriggerFlow.Sources
import TriggerFlow.Store.Call
import TriggerFlow.Store.Keyed
import TriggerFlow.Text.Case

/-!
A store in memory. Workflows and records belong to a tenant and do not exist for any other. Updates
keep the statistics and the date of creation; a record that is finished is never replaced.
-/

namespace TriggerFlow.Store

structure Memory where
  workflows : Keyed Workflow
  executions : Keyed Execution
  deriving Repr

namespace Memory

def empty : Memory := ⟨[], []⟩

def workflow? (m : Memory) (id tenant : String) : Option Workflow :=
  (m.workflows.get? id).filter (·.tenant == tenant)

def execution? (m : Memory) (id tenant : String) : Option Execution :=
  (m.executions.get? id).filter (·.tenant == tenant)

/-- The id a new workflow gets: its own if it has one. -/
def idFor (w : Workflow) (fresh : String) : String :=
  match w.id with
  | some id => if id = "" then fresh else id
  | none => fresh

def createWorkflow (m : Memory) (now : Moment) (fresh : String) (w : Workflow) :
    Workflow × Memory :=
  let id := idFor w fresh
  let stored := { w with id := some id, createdAt := some now, updatedAt := some now }
  (stored, { m with workflows := m.workflows.put id stored })

/-- Whether name or description contains the text, without regard to case. -/
def mentions (w : Workflow) (search : String) : Bool :=
  Text.contains (Text.lower w.name) (Text.lower search) ||
    Text.contains (Text.lower (w.description.getD "")) (Text.lower search)

/-- Empty filters let everything pass. -/
def passes (status search : Option String) (w : Workflow) : Bool :=
  (status.filter (· != "")).all (fun s => w.status.name == s) &&
    (search.filter (· != "")).all (mentions w)

/-- The moment of the last change on the common time line. -/
def changed (w : Workflow) : Int := (w.updatedAt.map Moment.instant).getD 0

def listWorkflows (m : Memory) (tenant : String) (status search : Option String) :
    List Workflow :=
  (m.workflows.values.filter fun w => w.tenant == tenant && passes status search w).mergeSort
    fun v w => changed w ≤ changed v

def updated? (m : Memory) (w : Workflow) : Option Workflow :=
  w.id.bind fun id => m.workflow? id w.tenant

def updateWorkflow (m : Memory) (now : Moment) (w current : Workflow) : Workflow × Memory :=
  let stored := { w with
    runCount := current.runCount
    lastRun := current.lastRun
    createdAt := current.createdAt
    updatedAt := some now }
  (stored, { m with workflows := m.workflows.put (w.id.getD "") stored })

def deleteWorkflow (m : Memory) (id tenant : String) : Bool × Memory :=
  match m.workflow? id tenant with
  | some _ => (true, { m with workflows := m.workflows.erase id })
  | none => (false, m)

def incrementRunCount (m : Memory) (id : Option String) (tenant : String) (finish : Moment) :
    Memory :=
  match id.bind fun id => (m.workflow? id tenant).map (id, ·) with
  | some (id, w) =>
    let counted := { w with runCount := w.runCount + 1, lastRun := some finish }
    { m with workflows := m.workflows.put id counted }
  | none => m

def saveExecution (m : Memory) (e : Execution) : Memory :=
  if (m.executions.get? e.id).any Execution.isFinished then m
  else { m with executions := m.executions.put e.id e }

def cancelled (e : Execution) (finish : Moment) : Execution :=
  { e with
    status := .cancelled
    error := some EngineError.cancelledMessage
    completedAt := some finish }

def markCancelled (m : Memory) (id tenant : String) (finish : Moment) :
    Option Execution × Memory :=
  match (m.execution? id tenant).filter (!·.isFinished) with
  | some e =>
    (some (cancelled e finish), { m with executions := m.executions.put id (cancelled e finish) })
  | none => (none, m)

/-- The first elements of a list, or all but the last ones where the limit is negative. -/
def limited {α : Type} (limit : Int) (xs : List α) : List α :=
  if 0 ≤ limit then xs.take limit.toNat else xs.take (xs.length - limit.natAbs)

/-- Whether the clocks of all records are of one kind. -/
def oneClock : List Execution → Bool
  | [] => true
  | e :: es => es.all fun f => Moment.comparable e.startedAt f.startedAt

def listExecutions (m : Memory) (workflow tenant : String) (limit : Int) :
    Except Failure (List Execution) :=
  let found := m.executions.values.filter fun e => e.workflow == workflow && e.tenant == tenant
  if oneClock found then
    .ok (limited limit (found.mergeSort fun e f => f.startedAt.instant ≤ e.startedAt.instant))
  else .error .clocksCompared

/-- The answer to a call. Only creating and updating look at the clock, and only creating a workflow
without an id takes one. -/
def answer (m : Memory) (s : Sources) : (c : Call) → Reply c × Memory × Sources
  | .createWorkflow w =>
    let (now, s) := s.now
    let (fresh, s) := if idFor w "" = "" then s.fresh else ("", s)
    let (stored, m) := m.createWorkflow now fresh w
    (.ok stored, m, s)
  | .getWorkflow id tenant => (.ok (m.workflow? id tenant), m, s)
  | .listWorkflows tenant status search => (.ok (m.listWorkflows tenant status search), m, s)
  | .updateWorkflow w =>
    match m.updated? w with
    | some current =>
      let (now, s) := s.now
      let (stored, m) := m.updateWorkflow now w current
      (.ok stored, m, s)
    | none => (.error (.engine (.workflowNotFound w.id)), m, s)
  | .deleteWorkflow id tenant =>
    let (deleted, m) := m.deleteWorkflow id tenant
    (.ok deleted, m, s)
  | .incrementRunCount id tenant finish => (.ok (), m.incrementRunCount id tenant finish, s)
  | .saveExecution e => (.ok (), m.saveExecution e, s)
  | .markCancelled id tenant finish =>
    let (e, m) := m.markCancelled id tenant finish
    (.ok e, m, s)
  | .getExecution id tenant => (.ok (m.execution? id tenant), m, s)
  | .listExecutions workflow tenant limit => (m.listExecutions workflow tenant limit, m, s)

end Memory
end TriggerFlow.Store
