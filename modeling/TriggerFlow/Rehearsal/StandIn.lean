import TriggerFlow.Failure
import TriggerFlow.Json.Value

/-!
A stand-in for the handlers of actions. Every call goes by a name, under which it fails or gives an
output as it was told; calls are noted in order.
-/

namespace TriggerFlow.Rehearsal

/-- The name of a call: the one in its configuration, or the kind of its action. -/
def callName (action : String) (config : Fields) : String :=
  match config.get? "name" with
  | some (.str name) => if name = "" then action else name
  | _ => action

structure Invocation where
  name : String
  action : String
  context : Value
  deriving Repr

structure StandIn where
  failures : List (String × Failure)
  outputs : Fields
  deriving Repr

namespace StandIn

/-- Without an output of its own a call reports that it is done. -/
def output (s : StandIn) (name : String) : Value :=
  (s.outputs.get? name).getD (.obj [(name ++ "_done", .bool true)])

def result (s : StandIn) (name : String) : Except Failure Value :=
  match s.failures.lookup name with
  | some f => .error f
  | none => .ok (s.output name)

end StandIn
end TriggerFlow.Rehearsal
