import TriggerFlow.Failure
import TriggerFlow.Json.Value

/-!
How the engine's errors show over HTTP: a status code and a detail.
-/

namespace TriggerFlow.EngineError

/-- Definitions that cannot go live are bad requests, what is not found is, what the state of a
workflow or run forbids conflicts, and a store that fails makes the service unavailable. -/
def httpStatus (e : EngineError) : Nat :=
  match e.kind with
  | .invalidDefinition | .noNodes | .noTrigger | .danglingConnection _ => 400
  | .workflowNotFound | .executionNotFound _ => 404
  | .workflowNotActive | .executionNotRunning => 409
  | .persistence => 503
  | _ => 500

def httpDetail (e : EngineError) : Value :=
  match e.kind.code? with
  | some code => .obj [("code", .str code), ("message", .str e.message)]
  | none => .str e.message

end TriggerFlow.EngineError
