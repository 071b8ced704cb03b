import TriggerFlow.Failure
import TriggerFlow.Workflow.Basic

/-!
The rules of a definition's life. A workflow may go live when it has a trigger and every connection
joins two of its nodes; toggling moves it between active and inactive under that rule, and a copy
starts again as a draft.
-/

namespace TriggerFlow.Workflow

/-- The first end of a connection that is no node, with the connection. -/
def danglingEnd? (ids : List String) : List Connection → Option (Connection × String)
  | [] => none
  | c :: cs =>
    match [c.source, c.target].find? fun id => !ids.contains id with
    | some id => some (c, id)
    | none => danglingEnd? ids cs

def activationError? (w : Workflow) : Option EngineError :=
  if w.nodes.isEmpty then some (.noNodes w.id)
  else if w.triggers.isEmpty then some (.noTrigger w.id)
  else (danglingEnd? (w.nodes.map (·.id)) w.connections).map fun (c, id) => .dangling c.id id w.id

def checkActivation (w : Workflow) : Except Failure Unit :=
  match w.activationError? with
  | some e => .error (.engine e)
  | none => .ok ()

/-- The rule is applied to workflows that are active and to no others. -/
def checkIfActive (w : Workflow) : Except Failure Unit :=
  if w.status = .active then w.checkActivation else .ok ()

def toggled (w : Workflow) : Except Failure Workflow :=
  if w.status = .active then .ok { w with status := .inactive }
  else w.checkActivation.map fun _ => { w with status := .active }

def copySuffix : String := " (Copy)"

def nonempty? (s : Option String) : Option String := s.filter (· != "")

/-- A draft of the same definition under a new id, made by `creator` or else by the same user. -/
def copy (w : Workflow) (id : String) (creator : Option String) : Workflow :=
  { w with
    id := some id
    name := w.name ++ copySuffix
    status := .draft
    runCount := 0
    lastRun := none
    createdBy := nonempty? creator <|> w.createdBy
    createdAt := none
    updatedAt := none }

end TriggerFlow.Workflow
