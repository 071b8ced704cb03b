import TriggerFlow.Condition

/-!
Workflow definitions: triggers and actions as nodes of a graph, joined by connections that may carry
conditions. A tenant owns a workflow; drafts, exports and changes are its partial forms.
-/

namespace TriggerFlow

inductive WorkflowStatus where
  | draft
  | active
  | inactive
  deriving DecidableEq, Repr

namespace WorkflowStatus

def name : WorkflowStatus → String
  | draft => "draft"
  | active => "active"
  | inactive => "inactive"

def all : List WorkflowStatus := [draft, active, inactive]

def ofName? (s : String) : Option WorkflowStatus := all.find? (·.name == s)

end WorkflowStatus

inductive Trigger where
  | userCreated
  | userUpdated
  | recordCreated
  | orderPlaced
  | paymentReceived
  | formSubmitted
  | schedule
  | webhook
  deriving DecidableEq, Repr

namespace Trigger

def all : List Trigger :=
  [userCreated, userUpdated, recordCreated, orderPlaced, paymentReceived, formSubmitted, schedule,
    webhook]

def name : Trigger → String
  | userCreated => "user_created"
  | userUpdated => "user_updated"
  | recordCreated => "record_created"
  | orderPlaced => "order_placed"
  | paymentReceived => "payment_received"
  | formSubmitted => "form_submitted"
  | schedule => "schedule"
  | webhook => "webhook"

def ofName? (s : String) : Option Trigger := all.find? (·.name == s)

end Trigger

inductive Action where
  | sendEmail
  | sendSms
  | createTask
  | updateRecord
  | callWebhook
  | sendNotification
  | logEvent
  deriving DecidableEq, Repr

namespace Action

def all : List Action :=
  [sendEmail, sendSms, createTask, updateRecord, callWebhook, sendNotification, logEvent]

def name : Action → String
  | sendEmail => "send_email"
  | sendSms => "send_sms"
  | createTask => "create_task"
  | updateRecord => "update_record"
  | callWebhook => "call_webhook"
  | sendNotification => "send_notification"
  | logEvent => "log_event"

def ofName? (s : String) : Option Action := all.find? (·.name == s)

end Action

/-- Where a node stands on the canvas; runs do not look at it. -/
structure Position where
  x : Binary64
  y : Binary64
  deriving DecidableEq, Repr

def Position.origin : Position := ⟨.zero, .zero⟩

inductive NodeKind where
  | trigger (event : Trigger)
  | action (effect : Action)
  deriving DecidableEq, Repr

structure Node where
  id : String
  kind : NodeKind
  config : Fields
  position : Position
  deriving Repr

namespace Node

def isTrigger (n : Node) : Bool :=
  match n.kind with
  | .trigger _ => true
  | .action _ => false

/-- The tag that tells the two kinds of node apart. -/
def tag (n : Node) : String := if n.isTrigger then "trigger" else "action"

/-- The label of a node in records: the name of its event or effect, in words. -/
def displayName (n : Node) : String :=
  let name := match n.kind with
    | .trigger e => e.name
    | .action a => a.name
  String.ofList (name.toList.map fun c => if c = '_' then ' ' else c)

end Node

/-- A directed edge, followed when its conditions hold. -/
structure Connection where
  id : String
  source : String
  target : String
  conditions : List Condition
  logic : Logic
  deriving DecidableEq, Repr

structure Graph where
  nodes : List Node
  connections : List Connection
  deriving Repr

namespace Graph

def node? (g : Graph) (id : String) : Option Node := g.nodes.find? (·.id == id)

/-- The connections that leave a node, in the order of the definition. -/
def outgoing (g : Graph) (id : String) : List Connection := g.connections.filter (·.source == id)

def triggers (g : Graph) : List Node := g.nodes.filter Node.isTrigger

def firstRepeated? (seen : List String) : List String → Option String
  | [] => none
  | id :: ids => if seen.contains id then some id else firstRepeated? (id :: seen) ids

def duplicateId? (g : Graph) : Option String := firstRepeated? [] (g.nodes.map (·.id))

theorem mem_nodes_of_node? {g : Graph} {id : String} {n : Node} (h : g.node? id = some n) :
    n ∈ g.nodes := List.mem_of_find?_eq_some h

theorem id_of_node? {g : Graph} {id : String} {n : Node} (h : g.node? id = some n) :
    n.id = id := by
  simpa using List.find?_some h

end Graph

structure Workflow extends Graph where
  id : Option String
  tenant : String
  name : String
  description : Option String
  status : WorkflowStatus
  tags : List String
  runCount : Int
  lastRun : Option Moment
  createdBy : Option String
  createdAt : Option Moment
  updatedAt : Option Moment
  deriving Repr

/-- What a new workflow is made from. -/
structure Draft extends Graph where
  name : String
  description : Option String
  status : Option WorkflowStatus
  tags : List String
  deriving Repr

/-- A definition without identity and statistics, to be carried elsewhere. -/
structure Portable extends Graph where
  name : String
  description : Option String
  tags : List String
  deriving Repr

/-- A partial update: of each field whether it was given and, if so, null or a value. -/
structure Changes where
  name : Option (Option String)
  description : Option (Option String)
  status : Option (Option WorkflowStatus)
  nodes : Option (Option (List Node))
  connections : Option (Option (List Connection))
  tags : Option (Option (List String))
  deriving Repr

structure RunRequest where
  triggerData : Value
  background : Bool
  deriving Repr

namespace Changes

/-- The workflow with every field that was given a value; null clears the description only. -/
def apply (c : Changes) (w : Workflow) : Workflow :=
  { w with
    name := (c.name.getD none).getD w.name
    description := c.description.getD w.description
    status := (c.status.getD none).getD w.status
    nodes := (c.nodes.getD none).getD w.nodes
    connections := (c.connections.getD none).getD w.connections
    tags := (c.tags.getD none).getD w.tags }

end Changes
end TriggerFlow
