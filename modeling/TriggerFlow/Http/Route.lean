import TriggerFlow.Http.Message

/-!
The routes of the service. A path that belongs to a route under another method is refused as such;
one that would belong to a route without its last slash is sent there. A path may end in a line
feed, which counts only where it is part of an id.
-/

namespace TriggerFlow.Http

inductive Operation where
  | createWorkflow
  | listWorkflows
  | importWorkflow
  | getWorkflow (id : String)
  | updateWorkflow (id : String)
  | deleteWorkflow (id : String)
  | toggleStatus (id : String)
  | duplicateWorkflow (id : String)
  | exportWorkflow (id : String)
  | executeWorkflow (id : String)
  | listExecutions (workflow : String)
  | getExecution (id : String)
  | cancelExecution (id : String)
  | describe
  deriving DecidableEq, Repr

/-- The last segment of a path without the line feed that may end it. -/
def ending (segment : String) : String :=
  match segment.toList.reverse with
  | '\n' :: cs => String.ofList cs.reverse
  | _ => segment

def collection : List (String × Operation) :=
  [("POST", .createWorkflow), ("GET", .listWorkflows)]

def operations : List String → List (String × Operation)
  | [name] => if ending name = "workflows" then collection else []
  | ["workflows", id] =>
    if id = "" then []
    else (if ending id = "import" then [("POST", Operation.importWorkflow)] else []) ++
      [("GET", .getWorkflow id), ("PATCH", .updateWorkflow id), ("DELETE", .deleteWorkflow id)]
  | ["workflows", id, action] =>
    if id = "" then []
    else match ending action with
      | "toggle-status" => [("POST", .toggleStatus id)]
      | "duplicate" => [("POST", .duplicateWorkflow id)]
      | "export" => [("GET", .exportWorkflow id)]
      | "execute" => [("POST", .executeWorkflow id)]
      | "executions" => [("GET", .listExecutions id)]
      | _ => []
  | ["executions", id] => if id = "" then [] else [("GET", .getExecution id)]
  | ["executions", id, action] =>
    if id = "" || ending action != "cancel" then [] else [("POST", .cancelExecution id)]
  | _ => []

def isDescription : List String → Bool
  | [page] => ["docs", "openapi.json", "redoc"].contains (ending page)
  | ["docs", page] => ending page = "oauth2-redirect"
  | _ => false

def operationsAt (segments : List String) : List (String × Operation) :=
  match segments with
  | "api" :: "v1" :: rest => operations rest
  | _ => if isDescription segments then [("GET", .describe), ("HEAD", .describe)] else []

inductive Routing where
  | found (o : Operation)
  | wrongMethod
  | redirected
  | unknown
  deriving DecidableEq, Repr

def unslashed (segments : List String) : List String :=
  (segments.reverse.dropWhile (· == "")).reverse

def route (method : String) (segments : List String) : Routing :=
  match (operationsAt segments).lookup method with
  | some o => .found o
  | none =>
    if !(operationsAt segments).isEmpty then .wrongMethod
    else if segments.getLast? = some "" && !(operationsAt (unslashed segments)).isEmpty then
      .redirected
    else .unknown

end TriggerFlow.Http
