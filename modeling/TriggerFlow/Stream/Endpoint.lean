import TriggerFlow.Stream.Publish

/-!
The conversation with one socket. It is accepted, told that it is subscribed, and then answered
whenever something comes in, until it leaves or a send to it fails; then it is unsubscribed.
-/

namespace TriggerFlow.Stream.Endpoint

inductive Incoming where
  | text (s : String)
  /-- Nothing came for a while. -/
  | silence
  | gone
  deriving DecidableEq, Repr

def json (fields : Fields) : Except Failure String := Json.write .compact (.obj fields)

def sendJson (s : Socket) (fields : Fields) : Task Bool := do
  match json fields with
  | .error _ => return false
  | .ok text => return (← send s text).isOk

/-- Subscribe a socket and tell it so. The conversation goes on if it could be told. -/
def start (s : Socket) (execution : String) : Task Bool := do
  subscribe s execution
  sendJson s [("type", .str "subscribed"), ("execution_id", .str execution)]

/-- Answer what came in. The conversation goes on unless the socket is gone. -/
def react (s : Socket) : Incoming → Task Bool
  | .text t => if t = "ping" then do return (← send s "pong").isOk else pure true
  | .silence => sendJson s [("type", .str "keepalive")]
  | .gone => pure false

def finish (s : Socket) (execution : String) : Task Unit := unsubscribe s execution

def converse (s : Socket) : List Incoming → Task Bool
  | [] => pure true
  | x :: rest => do if ← react s x then converse s rest else return false

/-- A whole conversation with what comes in until it ends, in whichever way. A socket that cannot be
accepted is not subscribed. -/
def serve (s : Socket) (execution : String) : Option (List Incoming) → Task Unit
  | none => accept s
  | some incoming => do
    let goesOn ← start s execution
    let _ ← converse s (if goesOn then incoming else [])
    finish s execution

end TriggerFlow.Stream.Endpoint
