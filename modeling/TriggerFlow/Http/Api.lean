import TriggerFlow.Http.Body
import TriggerFlow.Http.Route
import TriggerFlow.Http.Status
import TriggerFlow.Json.Key
import TriggerFlow.Schema.Report
import TriggerFlow.Service

/-!
The service over HTTP. A body that is no JSON is refused at once; after that query, headers and body
are checked together, and only a request without faults reaches the service. Errors of the engine
become responses of their own, any other failure an internal error.
-/

namespace TriggerFlow.Http

open Engine

/-- What the API works with; without a service it is not ready. -/
structure Api where
  settings : Service.Settings
  ready : Bool
  deriving Repr

def tenant (r : Request) : Reading String :=
  match r.header? "x-tenant-id" with
  | some t => .value t
  | none => .faults [⟨[.key "header", .key "x-tenant-id"], .missing⟩]

def user? (r : Request) : Option String := r.header? "x-user-id"

def parameter {α : Type} (r : Request) (name : String) (schema : Value → Reading α) :
    Reading (Option α) :=
  match r.parameter? name with
  | some s => ((schema (.str s)).under (.key name)).under (.key "query") |>.map some
  | none => .value none

/-- A limit of one to a thousand. -/
def limit (v : Value) : Reading Int :=
  (Schema.integer v).bind fun n =>
    if n < 1 then .fail (.belowMinimum 1)
    else if 1000 < n then .fail (.aboveMaximum 1000)
    else .value n

def status : Value → Reading WorkflowStatus :=
  Schema.oneOf WorkflowStatus.all WorkflowStatus.name

/-- What a body holds, `none` for an empty one. One that is not JSON by its content type is plain
text; a text that should be JSON and is none is answered right away. -/
def content (r : Request) : Except Response (Option Value) :=
  if r.body = "" then .ok none
  else if !(r.header? "content-type").any Body.namesJson then .ok (some (.str r.body))
  else match Body.read r.body with
    | .ok v => .ok (some v)
    | .error (.broken position) =>
      .error (.invalid [⟨[.key "body", .index position], .badJson⟩])
    | .error .unreadable => .error (detail 400 (.str "There was an error parsing the body"))

def required {α : Type} (schema : Value → Reading α) : Option Value → Reading α
  | some v => (schema v).under (.key "body")
  | none => .faults [⟨[.key "body"], .missing⟩]

def respond {α : Type} (success : α → Response) : Except Failure α → Response
  | .ok a => success a
  | .error (.engine e) => detail e.httpStatus e.httpDetail
  | .error _ => internalError

def document {α : Type} (status : Nat) (f : α → Value) (a : α) : Response :=
  .json status (f a).plain

/-- A record as a document, in which all keys are text. -/
def record (e : Execution) : Value := Key.mapValue Key.documentForm e.document

def documents {α : Type} (f : α → Value) (xs : List α) : Response :=
  .json 200 (Value.arr (xs.map f)).plain

/-- A response about faults shows what they are about, and cannot if that has no form in bytes. -/
def refuse (body : Option Value) (fs : List Fault) : Response :=
  let shown (f : Fault) : Bool := match f.place with
    | .key "body" :: place => (Schema.Report.subject (body.getD .null) place).isUnicode
    | _ => true
  if fs.all shown then .invalid fs else internalError

def serve {α : Type} (api : Api) (body : Option Value) (parts : Reading α)
    (work : α → Work Response) : Work Response :=
  match parts with
  | .faults fs => pure (refuse body fs)
  | .value a => if api.ready then work a else pure (detail 503 (.str "Service not ready"))

def withBody {α : Type} (api : Api) (r : Request) (schema : Option Value → Reading α)
    (work : String → α → Work Response) : Work Response :=
  match content r with
  | .error response => pure response
  | .ok v => serve api v (Prod.mk <$> tenant r <*> schema v) fun (t, a) => work t a

def withoutBody (api : Api) (r : Request) (work : String → Work Response) : Work Response :=
  serve api none (tenant r) work

def perform (api : Api) (r : Request) : Operation → Work Response
  | .createWorkflow => withBody api r (required (Draft.read .request)) fun t d => do
    return respond (document 201 Workflow.document) (← Service.createWorkflow t d (user? r))
  | .listWorkflows =>
    serve api none
        (Prod.mk <$> (Prod.mk <$> parameter r "status" status <*> parameter r "search" Schema.text)
          <*> tenant r) fun ((status, search), t) => do
      return respond (documents Workflow.document)
        (← Service.listWorkflows t (status.map WorkflowStatus.name) search)
  | .importWorkflow => withBody api r (required (Portable.read .request)) fun t p => do
    return respond (document 201 Workflow.document) (← Service.importWorkflow t p (user? r))
  | .getWorkflow id => withoutBody api r fun t => do
    return respond (document 200 Workflow.document) (← Service.getWorkflow t id)
  | .updateWorkflow id => withBody api r (required (Changes.read .request)) fun t c => do
    return respond (document 200 Workflow.document) (← Service.updateWorkflow t id c)
  | .deleteWorkflow id => withoutBody api r fun t => do
    return respond (fun _ => .json 200 (.obj [("id", .str id), ("deleted", .bool true)]))
      (← Service.deleteWorkflow t id)
  | .toggleStatus id => withoutBody api r fun t => do
    return respond (document 200 Workflow.document) (← Service.toggleStatus t id)
  | .duplicateWorkflow id => withoutBody api r fun t => do
    return respond (document 201 Workflow.document) (← Service.duplicateWorkflow t id (user? r))
  | .exportWorkflow id => withoutBody api r fun t => do
    return respond (document 200 Portable.document) (← Service.exportWorkflow t id)
  | .executeWorkflow id =>
    withBody api r
      (fun v => (Schema.optional (RunRequest.read .request) (v.getD .null)).under (.key "body"))
      fun t request => do
        return respond (document 200 record)
          (← Service.execute t id (request.getD .empty))
  | .listExecutions id =>
    serve api none (Prod.mk <$> parameter r "limit" limit <*> tenant r) fun (n, t) => do
      let found ← Service.listExecutions api.settings t id n
      return respond (documents Summary.document) (do (← found).mapM Execution.summary)
  | .getExecution id => withoutBody api r fun t => do
    return respond (document 200 record) (← Service.getExecution t id)
  | .cancelExecution id => withoutBody api r fun t => do
    return respond (document 200 record) (← Service.cancelExecution t id)
  | .describe => pure (.text 200 "")

def answer (api : Api) (r : Request) : Work Response :=
  Response.sent r.method <$>
  match route r.method r.segments with
  | .found o => perform api r o
  | .wrongMethod => pure wrongMethod
  | .redirected => pure (.text 307 "")
  | .unknown => pure (detail 404 (.str "Not Found"))

def health (storeName : String) : Response :=
  .json 200 (.obj [("status", .str "healthy"), ("store", .str storeName)])

end TriggerFlow.Http
