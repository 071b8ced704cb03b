import TriggerFlow.Failure

/-!
Failures that a scripted collaborator raises, given by the name of their kind and a message. The
names of the engine's own kinds give its errors, which then carry no ids; a failed node cannot be
made without its id.
-/

namespace TriggerFlow.Rehearsal

/-- A kind whose message is the text of a missing key is shown quoted. -/
def externalMessage (kind message : String) : String :=
  if kind = "KeyError" && message != "" then Text.quoted message else message

def raised (kind message : String) : Failure :=
  match ErrorKind.ofName? kind with
  | some (.nodeFailed _) => .external "TypeError"
      "NodeExecutionError.__init__() missing 1 required positional argument: 'node_id'"
  | some (.cycle _) => .engine (.cycle (message.toList.map String.singleton) none)
  | some k => .engine ⟨k, message, none⟩
  | none => .external kind (externalMessage kind message)

end TriggerFlow.Rehearsal
