import TriggerFlow.Failure
import TriggerFlow.Program

/-!
What the handlers of actions ask of their surroundings: fresh ids and the delivery of requests.
-/

namespace TriggerFlow.Action

/-- A request as it is put on the wire. Header names are in lower case. -/
structure WebRequest where
  method : String
  url : String
  headers : List (String × String)
  body : String
  deriving DecidableEq, Repr

inductive Delivery where
  | answered (status : Int)
  | lost (message : String)
  | broken (failure : Failure)
  deriving DecidableEq, Repr

inductive Call where
  | freshId
  | send (request : WebRequest)

def Reply : Call → Type
  | .freshId => String
  | .send _ => Delivery

/-- The work of a handler: an output, or the failure of the action. -/
abbrev Task := Program Call Reply

def freshId : Task String := Program.ask Call.freshId

def send (request : WebRequest) : Task Delivery := Program.ask (Call.send request)

end TriggerFlow.Action
