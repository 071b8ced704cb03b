import TriggerFlow.Schema
import TriggerFlow.Workflow.Basic

/-!
Workflow definitions as documents, written and read. Reading ignores unknown fields and supplies the
defaults of missing ones; a graph whose fields are all in order must still not use a node id twice.
-/

namespace TriggerFlow

open Schema

/-- An optional part, null when it is not there. -/
def Value.ofOption {α : Type} (f : α → Value) : Option α → Value
  | some a => f a
  | none => .null

def Position.document (p : Position) : Value := .obj [("x", .float p.x), ("y", .float p.y)]

def Position.read (source : Source) : Value → Reading Position :=
  object source "Position" fun fs =>
    Position.mk <$> withDefault "x" float .zero fs <*> withDefault "y" float .zero fs

def Condition.document (c : Condition) : Value :=
  .obj [("id", .str c.id), ("field", .str c.field), ("operator", .str c.operator.name),
    ("value", .str c.value)]

def Condition.read (source : Source) : Value → Reading Condition :=
  object source "Condition" fun fs =>
    Condition.mk <$> required "id" text fs <*> required "field" text fs <*>
      required "operator" (oneOf Operator.all Operator.name) fs <*> withDefault "value" text "" fs

namespace Node

def document (n : Node) : Value :=
  let kind := match n.kind with
    | .trigger e => ("trigger_type", Value.str e.name)
    | .action a => ("action_type", Value.str a.name)
  .obj [("id", .str n.id), ("type", .str n.tag), kind, ("config", .obj n.config),
    ("position", n.position.document)]

def ofParts (id : String) (_ : Unit) (kind : NodeKind) (config : Fields) (position : Position) :
    Node :=
  ⟨id, kind, config, position⟩

def readTrigger (source : Source) : Value → Reading Node :=
  object source "TriggerNode" fun fs =>
    ofParts <$> required "id" text fs <*> withDefault "type" (literal "trigger") () fs <*>
      (NodeKind.trigger <$> required "trigger_type" (oneOf Trigger.all Trigger.name) fs) <*>
      withDefault "config" Schema.map [] fs <*>
      withDefault "position" (Position.read source) .origin fs

def readAction (source : Source) : Value → Reading Node :=
  object source "ActionNode" fun fs =>
    ofParts <$> required "id" text fs <*> withDefault "type" (literal "action") () fs <*>
      (NodeKind.action <$> required "action_type" (oneOf Action.all Action.name) fs) <*>
      withDefault "config" Schema.map [] fs <*>
      withDefault "position" (Position.read source) .origin fs

/-- A node of either kind, by its tag, which also marks the place of its faults. -/
def read (source : Source) (v : Value) : Reading Node :=
  match v with
  | .obj fs => match Fields.get? fs "type" with
    | none => .fail .tagMissing
    | some (.str "trigger") => (readTrigger source v).under (.key "trigger")
    | some (.str "action") => (readAction source v).under (.key "action")
    | some tag => .fail (.tagUnknown (tag.setting.toOption.getD ""))
  | _ => .fail .notAttributes

end Node

def Connection.document (c : Connection) : Value :=
  .obj [("id", .str c.id), ("source", .str c.source), ("target", .str c.target),
    ("conditions", .arr (c.conditions.map Condition.document)), ("logic", .str c.logic.name)]

def Connection.read (source : Source) : Value → Reading Connection :=
  object source "WorkflowConnection" fun fs =>
    Connection.mk <$> required "id" text fs <*> required "source" text fs <*>
      required "target" text fs <*>
      withDefault "conditions" (list (Condition.read source)) [] fs <*>
      withDefault "logic" (oneOf Logic.all Logic.name) .and fs

namespace Graph

def nodesDocument (g : Graph) : Value := .arr (g.nodes.map Node.document)

def connectionsDocument (g : Graph) : Value := .arr (g.connections.map Connection.document)

def fields (g : Graph) : Fields :=
  [("nodes", g.nodesDocument), ("connections", g.connectionsDocument)]

def document (g : Graph) : Value := .obj g.fields

/-- The two lists of a graph, whose ids are not looked at yet. -/
def readLists (source : Source) (fs : Fields) : Reading Graph :=
  Graph.mk <$> withDefault "nodes" (list (Node.read source)) [] fs <*>
    withDefault "connections" (list (Connection.read source)) [] fs

/-- Refuses a whole whose graph uses a node id twice. -/
def distinct {α : Type} (graph : α → Graph) (r : Reading α) : Reading α :=
  r.bind fun a => match (graph a).duplicateId? with
    | some id => .fail (.duplicateNode id)
    | none => .value a

def read (source : Source) : Value → Reading Graph :=
  object source "WorkflowGraph" fun fs => distinct id (readLists source fs)

end Graph

def textsDocument (ss : List String) : Value := .arr (ss.map .str)

namespace Workflow

def document (w : Workflow) : Value :=
  .obj (w.toGraph.fields ++
    [("id", .ofOption .str w.id), ("tenant_id", .str w.tenant), ("name", .str w.name),
      ("description", .ofOption .str w.description), ("status", .str w.status.name),
      ("tags", textsDocument w.tags), ("run_count", .int w.runCount),
      ("last_run", .ofOption .time w.lastRun), ("created_by", .ofOption .str w.createdBy),
      ("created_at", .ofOption .time w.createdAt), ("updated_at", .ofOption .time w.updatedAt)])

def read (source : Source) : Value → Reading Workflow :=
  object source "Workflow" fun fs => Graph.distinct Workflow.toGraph <|
    Workflow.mk <$> Graph.readLists source fs <*> nullable "id" text fs <*>
      required "tenant_id" text fs <*> required "name" text fs <*>
      nullable "description" text fs <*>
      withDefault "status" (oneOf WorkflowStatus.all WorkflowStatus.name) .draft fs <*>
      withDefault "tags" (list text) [] fs <*> withDefault "run_count" integer 0 fs <*>
      nullable "last_run" moment fs <*> nullable "created_by" text fs <*>
      nullable "created_at" moment fs <*> nullable "updated_at" moment fs

end Workflow

namespace Draft

def document (d : Draft) : Value :=
  .obj (d.toGraph.fields ++
    [("name", .str d.name), ("description", .ofOption .str d.description),
      ("status", .ofOption (fun s => .str s.name) d.status), ("tags", textsDocument d.tags)])

def read (source : Source) : Value → Reading Draft :=
  object source "WorkflowCreate" fun fs => Graph.distinct Draft.toGraph <|
    Draft.mk <$> Graph.readLists source fs <*> required "name" nonemptyText fs <*>
      nullable "description" text fs <*>
      nullable "status" (oneOf WorkflowStatus.all WorkflowStatus.name) fs <*>
      withDefault "tags" (list text) [] fs

end Draft

namespace Portable

def document (p : Portable) : Value :=
  .obj (p.toGraph.fields ++
    [("name", .str p.name), ("description", .ofOption .str p.description),
      ("tags", textsDocument p.tags)])

def read (source : Source) : Value → Reading Portable :=
  object source "WorkflowExport" fun fs => Graph.distinct Portable.toGraph <|
    Portable.mk <$> Graph.readLists source fs <*> required "name" text fs <*>
      nullable "description" text fs <*> withDefault "tags" (list text) [] fs

end Portable

namespace Changes

/-- A field of a document, when it was given. -/
def entry {α : Type} (key : String) (f : α → Value) (field : Option (Option α)) : Fields :=
  (field.map fun a => (key, Value.ofOption f a)).toList

/-- The fields that were given. -/
def document (c : Changes) : Value :=
  .obj (entry "name" .str c.name ++ entry "description" .str c.description ++
    entry "status" (fun s => .str s.name) c.status ++
    entry "nodes" (fun ns => .arr (ns.map Node.document)) c.nodes ++
    entry "connections" (fun cs => .arr (cs.map Connection.document)) c.connections ++
    entry "tags" textsDocument c.tags)

def read (source : Source) : Value → Reading Changes :=
  object source "WorkflowUpdate" fun fs =>
    Changes.mk <$> given "name" (optional nonemptyText) fs <*>
      given "description" (optional text) fs <*>
      given "status" (optional (oneOf WorkflowStatus.all WorkflowStatus.name)) fs <*>
      given "nodes" (optional (list (Node.read source))) fs <*>
      given "connections" (optional (list (Connection.read source))) fs <*>
      given "tags" (optional (list text)) fs

end Changes

namespace RunRequest

def empty : RunRequest := ⟨.obj [], false⟩

def document (r : RunRequest) : Value :=
  .obj [("trigger_data", r.triggerData), ("background", .bool r.background)]

def read (source : Source) : Value → Reading RunRequest :=
  object source "ExecuteRequest" fun fs =>
    RunRequest.mk <$> (Value.obj <$> withDefault "trigger_data" Schema.map [] fs) <*>
      withDefault "background" boolean false fs

end RunRequest
end TriggerFlow
