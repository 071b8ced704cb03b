import TriggerFlow.Http.Api
import TriggerFlow.Http.CrossOrigin
import TriggerFlow.Rehearsal.Surroundings

/-!
The start of the service and what it answers besides its operations. The store is the database if
that is configured and its tables can be made; otherwise it is the memory.
-/

namespace TriggerFlow.Rehearsal

namespace Backend

def storeName : Backend → String
  | memory => "InMemoryWorkflowStore"
  | database => "PostgresWorkflowStore"

/-- The store to work with, and the database after the attempt to make the tables. A configured
database that cannot be reached is `none`. -/
def choose (configured : String) (reached : Option Database) (s : Sources) : Backend × Database :=
  if configured = "memory" then (.memory, .ofScript [])
  else match reached with
    | none => (.memory, .ofScript [])
    | some d =>
      let (r, d, _) := Store.Sql.createTables.run Database.answer (d, s)
      (if r.isOk then .database else .memory, d)

end Backend

def healthResponse? (b : Backend) (r : Http.Request) : Option Http.Response :=
  match r.segments with
  | [page] =>
    if Http.ending page != "health" then none
    else some (if r.method = "GET" then Http.health b.storeName else Http.wrongMethod)
  | page :: rest =>
    if Http.ending page = "health" && rest.all (· = "") then some (.text 307 "") else none
  | [] => none

/-- The response of the whole site: leave for pages of other origins, the state of the service, or
what its operations give. -/
def respond (api : Http.Api) (b : Backend) (r : Http.Request) : Engine.Work Http.Response :=
  match (Http.CrossOrigin.leave? r).or (healthResponse? b r) with
  | some response => pure (response.sent r.method)
  | none => Http.answer api r

def executionOfPath? (path : String) : Option String :=
  match Text.splitAt '/' path.toList |>.map String.ofList with
  | ["", "ws", "executions", id] => if id = "" then none else some id
  | _ => none

end TriggerFlow.Rehearsal
