import TriggerFlow.Fault
import TriggerFlow.Json.Plain
import TriggerFlow.Http.Percent
import TriggerFlow.Text.Case

/-!
Requests to the service and its responses.
-/

namespace TriggerFlow.Http

structure Request where
  method : String
  /-- The path as it is sent, percent encoded. -/
  path : String
  headers : List (String × String)
  query : List (String × String)
  /-- The text of the body; none and an empty one are the same. -/
  body : String
  deriving Repr

def Request.header? (r : Request) (name : String) : Option String :=
  (r.headers.find? fun h => Text.lowerAscii h.1 == name).map (·.2)

/-- A query parameter; of several the last counts. -/
def Request.parameter? (r : Request) (name : String) : Option String :=
  (r.query.reverse.find? fun q => q.1 == name).map (·.2)

def Request.segments (r : Request) : List String :=
  ((Text.splitAt '/' (Percent.decode r.path.toList)).drop 1).map String.ofList

inductive Response where
  | json (status : Nat) (body : Value)
  | text (status : Nat) (body : String)
  | invalid (faults : List Fault)
  deriving Repr

def internalError : Response := .text 500 "Internal Server Error"

def Response.bare : Response → Response
  | .json status _ | .text status _ => .text status ""
  | .invalid _ => .text 422 ""

/-- A response as it is sent: what has no form in bytes cannot be, and one to a request for the
head alone has no body. -/
def Response.sent (method : String) (r : Response) : Response :=
  let r := match r with
    | .json _ body => if body.isUnicode then r else internalError
    | _ => r
  if method = "HEAD" then r.bare else r

def detail (status : Nat) (d : Value) : Response := .json status (.obj [("detail", d)])

def wrongMethod : Response := detail 405 (.str "Method Not Allowed")

end TriggerFlow.Http
