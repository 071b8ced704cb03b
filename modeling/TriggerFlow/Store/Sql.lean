import TriggerFlow.Execution.Document
import TriggerFlow.Json.Literal
import TriggerFlow.Json.Plain
import TriggerFlow.Json.Reader
import TriggerFlow.Program
import TriggerFlow.Schema.Report
import TriggerFlow.Store.Call
import TriggerFlow.Text.Uuid

/-!
A store in a relational database. Each call is at most one statement; definitions, trigger data and
steps are written as JSON, and come back either as text or already decoded. Ids that spell no UUID
are not looked up at all.
-/

namespace TriggerFlow.Store.Sql

/-- What is expected of a statement: nothing but its tag, the rows, or the first row. -/
inductive Mode where
  | execute
  | fetch
  | fetchRow
  deriving DecidableEq, Repr

inductive Argument where
  | value (v : Value)
  | uuid (canonical : String)
  deriving Repr

structure Statement where
  mode : Mode
  text : String
  arguments : List Argument
  deriving Repr

inductive Call where
  | freshId
  | send (s : Statement)

/-- A statement gives a tag, a list of rows, a row or null. -/
def Reply : Call → Type
  | .freshId => String
  | .send _ => Except Failure Value

abbrev Query := Program Call Reply

def freshId : Query String := Program.ask Call.freshId

def send (mode : Mode) (text : String) (arguments : List Argument) :
    Query (Except Failure Value) :=
  Program.ask (Call.send ⟨mode, text, arguments⟩)

def string (s : String) : Argument := .value (.str s)

def stringOrNull (s : Option String) : Argument := .value (.ofOption .str s)

def json (v : Value) : Except Failure Argument := do
  return string (← Json.write .spaced v)

/-- A node as it is written, its configuration reduced to what documents hold. -/
def storedNode (n : Node) : Node := { n with config := Fields.plain n.config }

/-- The nodes of a graph as they are written. -/
def nodesColumn (g : Graph) : Value :=
  Graph.nodesDocument { g with nodes := g.nodes.map storedNode }

/-- A column of JSON, as text or decoded; what is empty becomes `default`. -/
def load (v default : Value) : Except Failure Value := do
  let v ← match v with
    | .str s => Json.read s
    | v => pure v
  return if v.isEmpty then default else v

def column (row : Fields) (name : String) : Except Failure Value :=
  match row.get? name with
  | some v => .ok v
  | none => .error (.missingColumn name)

/-- The fields of a row, which has to be there. -/
def rowFields : Value → Except Failure Fields
  | .obj fs => .ok fs
  | .arr _ => .error (.notIndices false)
  | .str _ => .error (.notIndices true)
  | v => .error (.isNot v.typeName "subscriptable")

def statusOf (v : Value) : Except Failure WorkflowStatus :=
  match (match v with | .str s => WorkflowStatus.ofName? s | _ => none) with
  | some s => .ok s
  | none => do throw (.notAmong (← v.literal) "WorkflowStatus")

/-- The reading of a row's document, with a report on what is wrong with it. -/
def reported {α : Type} (name : String) (read : Value → Reading α) (document : Value) :
    Except Failure α :=
  match read document with
  | .value a => .ok a
  | .faults fs => .error (.unreadable fs (Schema.Report.text name document fs))

def workflowOfRow (v : Value) : Except Failure Workflow := do
  let row ← rowFields v
  let id ← (← column row "id").setting
  let tenant ← column row "tenant_id"
  let name ← column row "name"
  let description ← column row "description"
  let status ← statusOf (← column row "status")
  let nodes ← load (← column row "nodes") (.arr [])
  let connections ← load (← column row "connections") (.arr [])
  let tags ← load (← column row "tags") (.arr [])
  let count ← column row "run_count"
  let lastRun ← column row "last_run"
  let createdBy ← column row "created_by"
  let createdAt ← column row "created_at"
  let updatedAt ← column row "updated_at"
  reported "Workflow" (Workflow.read .data) (.obj [("id", .str id), ("tenant_id", tenant),
    ("name", name), ("description", description), ("status", .str status.name), ("nodes", nodes),
    ("connections", connections), ("tags", tags),
    ("run_count", if count.isEmpty then .int 0 else count), ("last_run", lastRun),
    ("created_by", createdBy), ("created_at", createdAt), ("updated_at", updatedAt)])

def executionOfRow (v : Value) : Except Failure Execution := do
  let row ← rowFields v
  let id ← (← column row "id").setting
  let workflow ← (← column row "workflow_id").setting
  let tenant ← column row "tenant_id"
  let status ← column row "status"
  let triggerData ← load (← column row "trigger_data") (.obj [])
  let steps ← load (← column row "steps") (.arr [])
  let error ← column row "error"
  let startedAt ← column row "started_at"
  let completedAt ← column row "completed_at"
  reported "WorkflowExecution" (Execution.read .data) (.obj [("id", .str id),
    ("workflow_id", .str workflow), ("tenant_id", tenant), ("status", status),
    ("trigger_data", triggerData), ("steps", steps), ("error", error), ("started_at", startedAt),
    ("completed_at", completedAt)])

/-- A row that may be absent. -/
def optionalRow {α : Type} (read : Value → Except Failure α) (v : Value) :
    Except Failure (Option α) :=
  if v.isEmpty then .ok none else (read v).map some

def rows {α : Type} (read : Value → Except Failure α) : Value → Except Failure (List α)
  | .arr vs => vs.mapM read
  | .str s => if s = "" then .ok [] else .error (.notIndices true)
  | .obj fs => if fs.isEmpty then .ok [] else .error (.notIndices true)
  | v => .error (.isNot v.typeName "iterable")

/-- Whether a tag says that one row was affected. -/
def oneAffected : Value → Except Failure Bool
  | .str tag => .ok (Text.endsWith tag " 1")
  | v => .error (.lacks v.typeName "endswith")

/-- The columns of a definition, in the order in which statements name them. -/
def definitionArguments (w : Workflow) : Except Failure (List Argument) := do
  return [string w.name, stringOrNull w.description, string w.status.name,
    ← json (nodesColumn w.toGraph), ← json w.connectionsDocument, ← json (textsDocument w.tags)]

def insertWorkflowText : String :=
  "INSERT INTO automation_workflows (id, tenant_id, name, description, status, nodes, " ++
  "connections, tags, run_count, created_by) VALUES ($1, $2, $3, $4, $5, $6, $7, $8, $9, $10) " ++
  "RETURNING *"

def insertWorkflowArguments (id : String) (w : Workflow) : Except Failure (List Argument) := do
  return [string id, string w.tenant] ++ (← definitionArguments w) ++
    [.value (.int w.runCount), stringOrNull w.createdBy]

def createWorkflow (w : Workflow) : Query (Except Failure Workflow) := do
  let id ← match w.id.filter (· != "") with
    | some id => pure id
    | none => freshId
  match insertWorkflowArguments id w with
  | .error f => return .error f
  | .ok arguments =>
    return (← send .fetchRow insertWorkflowText arguments) >>= workflowOfRow

def selectWorkflowText : String :=
  "SELECT * FROM automation_workflows WHERE id = $1 AND tenant_id = $2"

def getWorkflow (id tenant : String) : Query (Except Failure (Option Workflow)) :=
  match Uuid.key? id with
  | none => pure (.ok none)
  | some key => do
    return (← send .fetchRow selectWorkflowText [.uuid key, string tenant]) >>=
      optionalRow workflowOfRow

/-- The pattern that a searched text is matched with. -/
def searchPattern (search : String) : String := "%" ++ search ++ "%"

/-- Empty filters add nothing to the statement. -/
def listStatement (tenant : String) (status search : Option String) :
    Except Failure Statement := do
  let status := status.filter (· != "")
  let search := search.filter (· != "")
  let statusArguments ← match status with
    | some s => do pure [string (← statusOf (.str s)).name]
    | none => pure []
  let next := "$" ++ toString (2 + statusArguments.length)
  return {
    mode := .fetch
    text := "SELECT * FROM automation_workflows WHERE tenant_id = $1" ++
      (if status.isSome then " AND status = $2" else "") ++
      (if search.isSome then
        " AND (name ILIKE " ++ next ++ " OR description ILIKE " ++ next ++ ")" else "") ++
      " ORDER BY updated_at DESC"
    arguments := [string tenant] ++ statusArguments ++
      (search.map fun s => string (searchPattern s)).toList }

def listWorkflows (tenant : String) (status search : Option String) :
    Query (Except Failure (List Workflow)) :=
  match listStatement tenant status search with
  | .error f => pure (.error f)
  | .ok s => do return (← send s.mode s.text s.arguments) >>= rows workflowOfRow

def updateWorkflowText : String :=
  "UPDATE automation_workflows SET name = $1, description = $2, status = $3, nodes = $4, " ++
  "connections = $5, tags = $6, updated_at = CURRENT_TIMESTAMP WHERE id = $7 AND " ++
  "tenant_id = $8 RETURNING *"

def updateWorkflow (w : Workflow) : Query (Except Failure Workflow) :=
  match w.id.bind Uuid.key? with
  | none => pure (.error (.engine (.workflowNotFound w.id)))
  | some key =>
    match definitionArguments w with
    | .error f => pure (.error f)
    | .ok arguments => do
      match ← send .fetchRow updateWorkflowText (arguments ++ [.uuid key, string w.tenant]) with
      | .error f => return .error f
      | .ok .null => return .error (.engine (.workflowNotFound w.id))
      | .ok row => return workflowOfRow row

def deleteWorkflow (id tenant : String) : Query (Except Failure Bool) :=
  match Uuid.key? id with
  | none => pure (.ok false)
  | some key => do
    return (← send .execute "DELETE FROM automation_workflows WHERE id = $1 AND tenant_id = $2"
      [.uuid key, string tenant]) >>= oneAffected

def incrementText : String :=
  "UPDATE automation_workflows SET run_count = run_count + 1, last_run = $1 WHERE id = $2 AND " ++
  "tenant_id = $3"

def incrementRunCount (id : Option String) (tenant : String) (finish : Moment) :
    Query (Except Failure Unit) := do
  let key := match id.bind Uuid.key? with
    | some key => Argument.uuid key
    | none => .value .null
  return (← send .execute incrementText [.value (.time finish), key, string tenant]).map
    fun _ => ()

def saveExecutionText : String :=
  "INSERT INTO automation_executions (id, workflow_id, tenant_id, status, trigger_data, steps, " ++
  "error, started_at, completed_at) VALUES ($1, $2, $3, $4, $5, $6, $7, $8, $9) " ++
  "ON CONFLICT (id) DO UPDATE SET status = EXCLUDED.status, steps = EXCLUDED.steps, " ++
  "error = EXCLUDED.error, completed_at = EXCLUDED.completed_at " ++
  "WHERE automation_executions.status = 'running'"

def saveExecutionArguments (e : Execution) : Except Failure (List Argument) := do
  return [string e.id, string e.workflow, string e.tenant, string e.status.name,
    ← json (.obj (Fields.plain e.triggerData)), ← json e.stepsDocument.plain,
    stringOrNull e.error, .value (.time e.startedAt), .value (.ofOption .time e.completedAt)]

def saveExecution (e : Execution) : Query (Except Failure Unit) :=
  match saveExecutionArguments e with
  | .error f => pure (.error f)
  | .ok arguments => do
    return (← send .execute saveExecutionText arguments).map fun _ => ()

def getExecution (id tenant : String) : Query (Except Failure (Option Execution)) :=
  match Uuid.key? id with
  | none => pure (.ok none)
  | some key => do
    return (← send .fetchRow
      "SELECT * FROM automation_executions WHERE id = $1 AND tenant_id = $2"
      [.uuid key, string tenant]) >>= optionalRow executionOfRow

def markCancelledText : String :=
  "UPDATE automation_executions SET status = $1, error = $2, completed_at = $3 WHERE id = $4 " ++
  "AND tenant_id = $5 AND status = 'running' RETURNING *"

def markCancelled (id tenant : String) (finish : Moment) :
    Query (Except Failure (Option Execution)) :=
  match Uuid.key? id with
  | none => pure (.ok none)
  | some key => do
    return (← send .fetchRow markCancelledText
      [string ExecutionStatus.cancelled.name, string EngineError.cancelledMessage,
        .value (.time finish), .uuid key, string tenant]) >>= optionalRow executionOfRow

def listExecutions (workflow tenant : String) (limit : Int) :
    Query (Except Failure (List Execution)) :=
  match Uuid.key? workflow with
  | none => pure (.ok [])
  | some key => do
    return (← send .fetch
      ("SELECT * FROM automation_executions WHERE workflow_id = $1 AND tenant_id = $2 " ++
        "ORDER BY started_at DESC LIMIT $3")
      [.uuid key, string tenant, .value (.int limit)]) >>= rows executionOfRow

/-- The answer to a call of the store. -/
def answer : (c : Store.Call) → Query (Store.Reply c)
  | .createWorkflow w => createWorkflow w
  | .getWorkflow id tenant => getWorkflow id tenant
  | .listWorkflows tenant status search => listWorkflows tenant status search
  | .updateWorkflow w => updateWorkflow w
  | .deleteWorkflow id tenant => deleteWorkflow id tenant
  | .incrementRunCount id tenant finish => incrementRunCount id tenant finish
  | .saveExecution e => saveExecution e
  | .markCancelled id tenant finish => markCancelled id tenant finish
  | .getExecution id tenant => getExecution id tenant
  | .listExecutions workflow tenant limit => listExecutions workflow tenant limit

/-- The statements that make the tables and their indexes. -/
def tableTexts : List String :=
  ["CREATE TABLE IF NOT EXISTS automation_workflows ( id UUID PRIMARY KEY, " ++
    "tenant_id VARCHAR(255) NOT NULL, name VARCHAR(255) NOT NULL, description TEXT, " ++
    "status VARCHAR(50) NOT NULL DEFAULT 'draft', nodes JSONB NOT NULL DEFAULT '[]', " ++
    "connections JSONB NOT NULL DEFAULT '[]', tags JSONB NOT NULL DEFAULT '[]', " ++
    "run_count INTEGER NOT NULL DEFAULT 0, last_run TIMESTAMPTZ, created_by VARCHAR(255), " ++
    "created_at TIMESTAMPTZ DEFAULT CURRENT_TIMESTAMP, " ++
    "updated_at TIMESTAMPTZ DEFAULT CURRENT_TIMESTAMP )",
    "CREATE TABLE IF NOT EXISTS automation_executions ( id UUID PRIMARY KEY, " ++
    "workflow_id UUID NOT NULL, tenant_id VARCHAR(255) NOT NULL, " ++
    "status VARCHAR(50) NOT NULL DEFAULT 'running', trigger_data JSONB, " ++
    "steps JSONB NOT NULL DEFAULT '[]', error TEXT, started_at TIMESTAMPTZ NOT NULL, " ++
    "completed_at TIMESTAMPTZ )",
    "CREATE INDEX IF NOT EXISTS idx_automation_workflows_tenant " ++
    "ON automation_workflows(tenant_id, status)",
    "CREATE INDEX IF NOT EXISTS idx_automation_executions_workflow " ++
    "ON automation_executions(workflow_id, started_at DESC)",
    "CREATE INDEX IF NOT EXISTS idx_automation_executions_status " ++
    "ON automation_executions(status)"]

/-- Send the statements one after the other until one fails. -/
def sendAll : List String → Query (Except Failure Unit)
  | [] => pure (.ok ())
  | text :: rest => do
    match ← send .execute text [] with
    | .error f => return .error f
    | .ok _ => sendAll rest

def createTables : Query (Except Failure Unit) := sendAll tableTexts

end TriggerFlow.Store.Sql
