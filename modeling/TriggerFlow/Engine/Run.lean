import TriggerFlow.Engine.Call
import TriggerFlow.Engine.Output
import TriggerFlow.Execution.Basic
import TriggerFlow.Workflow.Activation

/-!
Runs of workflows. A run walks the graph depth first from its first trigger, keeping the nodes on
its path on a stack of frames; a node that has succeeded is not entered again, and one that is on
the path closes a cycle. Every change of the record is saved before the walk goes on, and cancel
requests are looked at between the steps. The walk ends because every frame uses up connections and
every new frame a node that had not succeeded before.

A run may share its record with others. Whenever it may have had to wait, it looks at the record
anew: `alone` finds it as the run left it, `latest` with what the others wrote.
-/

namespace TriggerFlow.Engine

/-- A node on the path: its input, its output and the connections still to be followed. -/
structure Frame where
  node : Node
  context : Fields
  output : Fields
  remaining : List Connection

/-- Why a walk stops before its end: with an error that belongs to the run, or with a failure that
takes the run down. -/
inductive Stop where
  | ended (e : EngineError)
  | aborted (f : Failure)

structure Visit where
  id : String
  start : Moment
  finish : Moment
  output : Fields

def runningStep (n : Node) (id : String) (start : Moment) : Step :=
  ⟨id, n.id, n.displayName, .running, start, none, none, none⟩

def failedStep (n : Node) (id : String) (start finish : Moment) (message : String) : Step :=
  ⟨id, n.id, n.displayName, .failed, start, some finish, some message, none⟩

def Visit.step (v : Visit) (n : Node) : Step :=
  ⟨v.id, n.id, n.displayName, .success, v.start, some v.finish, none, some v.output⟩

def stepId : Work String := do
  let id ← freshId
  return "step_" ++ String.ofList ((id.toList.filter (· != '-')).take 16)

/-- The look of a run that is the only one of its record. -/
def alone (e : Execution) : Work Execution := pure e

def save (e : Execution) : Work (Except Failure Unit) := do
  match ← store (.saveExecution e) with
  | .ok _ => return .ok ()
  | .error f =>
    return .error (.engine
      (.persistence ("persist execution " ++ e.id) f.message (some e.workflow)))

/-- The work of a node: a trigger passes its input on with its name, an action is dispatched. -/
def perform (n : Node) (context : Fields) : Work (Except Failure Fields) :=
  match n.kind with
  | .trigger event => pure (.ok (context.set "triggered_by" (.str event.name)))
  | .action a => do
    match ← invoke a n.config (.obj context) with
    | .ok v => return Output.fields v
    | .error f => return .error f

/-- Enter a node: its step is saved as running before the work and as a success or failure after
it. The record is given back as it then stands. -/
def visit (w : Workflow) (look : Execution → Work Execution) (e : Execution) (n : Node)
    (context : Fields) : Work (Except (Execution × Stop) (Execution × Visit)) := do
  let id ← stepId
  let start ← now
  let entered := e.addStep (runningStep n id start)
  match ← save entered with
  | .error f => return .error (entered, .aborted f)
  | .ok _ =>
    notify e.id "node_start" [("node_id", .str n.id), ("step_id", .str id)]
    match ← perform n context with
    | .error f =>
      let finish ← now
      let failed := (← look entered).replaceStep (failedStep n id start finish f.shown)
      match ← save failed with
      | .error g => return .error (failed, .aborted g)
      | .ok _ =>
        notify e.id "node_failed" [("node_id", .str n.id), ("error", .str f.shown)]
        return .error (← look failed, .ended (.nodeFailed f.shown n.id w.id))
    | .ok output =>
      let finish ← now
      let v : Visit := ⟨id, start, finish, output⟩
      let done := (← look entered).replaceStep (v.step n)
      match ← save done with
      | .error g => return .error (done, .aborted g)
      | .ok _ =>
        notify e.id "node_complete" [("node_id", .str n.id), ("output", .obj output)]
        return .ok (← look done, v)

def skippedStep (w : Workflow) (c : Connection) (id : String) (time : Moment) : Step :=
  ⟨id, c.target, ((w.node? c.target).map Node.displayName).getD c.target, .skipped, time, some time,
    none, none⟩

def skip (w : Workflow) (look : Execution → Work Execution) (e : Execution) (c : Connection) :
    Work (Execution × Except Failure Unit) := do
  let time ← now
  let id ← stepId
  let skipped := e.addStep (skippedStep w c id time)
  match ← save skipped with
  | .error f => return (skipped, .error f)
  | .ok _ =>
    notify e.id "node_skipped" [("node_id", .str c.target), ("connection_id", .str c.id)]
    return (← look skipped, .ok ())

def Frame.enter (w : Workflow) (n : Node) (context : Fields) (v : Visit) : Frame :=
  ⟨n, context, v.output, w.outgoing n.id⟩

def pathOf (frames : List Frame) : List String := (frames.map (·.node.id)).reverse

def cycleThrough (frames : List Frame) (id : String) : List String :=
  (pathOf frames).dropWhile (· != id) ++ [id]

def totalWeight {α : Type} (weight : α → Nat) : List α → Nat
  | [] => 0
  | a :: rest => weight a + totalWeight weight rest

/-- Nodes that have not succeeded yet, each counted with its connections. -/
def openNodes (w : Workflow) (e : Execution) : Nat :=
  totalWeight (fun n => 1 + (w.outgoing n.id).length)
    (w.nodes.filter fun n => (e.successfulStep? n.id).isNone)

def openFrames (frames : List Frame) : Nat := totalWeight (fun f => 1 + f.remaining.length) frames

theorem successfulStep?_addStep_isNone {e : Execution} {s : Step} {id : String}
    (h : ((e.addStep s).successfulStep? id).isNone = true) :
    (e.successfulStep? id).isNone = true := by
  simp only [Execution.successfulStep?, Execution.addStep, List.find?_append,
    Option.isNone_iff_eq_none, Option.or_eq_none_iff] at h ⊢
  exact h.1

theorem successfulStep?_visit (e : Execution) (v : Visit) (n : Node) :
    ((e.addStep (v.step n)).successfulStep? n.id).isNone = false := by
  simp only [Execution.successfulStep?, Execution.addStep, List.find?_append]
  cases h : e.steps.find? fun s => s.node == n.id && s.status == .success <;>
    simp [Visit.step]

theorem totalWeight_filter_le {α : Type} (weight : α → Nat) (p q : α → Bool)
    (h : ∀ a, p a = true → q a = true) (xs : List α) :
    totalWeight weight (xs.filter p) ≤ totalWeight weight (xs.filter q) := by
  induction xs with
  | nil => exact Nat.le_refl _
  | cons x xs ih =>
      cases hp : p x with
      | true => simp only [List.filter_cons, hp, h x hp, if_true, totalWeight]; omega
      | false =>
          cases hq : q x <;>
            simp only [List.filter_cons, hp, hq, if_true, Bool.false_eq_true, if_false,
              totalWeight] <;> omega

theorem totalWeight_filter_lt {α : Type} (weight : α → Nat) (p q : α → Bool)
    (h : ∀ a, p a = true → q a = true) {xs : List α} {a : α} (ha : a ∈ xs)
    (hp : p a = false) (hq : q a = true) :
    totalWeight weight (xs.filter p) + weight a ≤ totalWeight weight (xs.filter q) := by
  induction xs with
  | nil => cases ha
  | cons x xs ih =>
      rcases List.mem_cons.mp ha with rfl | hmem
      · have := totalWeight_filter_le weight p q h xs
        simp only [List.filter_cons, hp, hq, if_true, Bool.false_eq_true, if_false, totalWeight]
        omega
      · have := ih hmem
        cases hpx : p x with
        | true => simp only [List.filter_cons, hpx, h x hpx, if_true, totalWeight]; omega
        | false =>
            cases hqx : q x <;>
              simp only [List.filter_cons, hpx, hqx, if_true, Bool.false_eq_true, if_false,
                totalWeight] <;> omega

theorem openNodes_advancedTo_le (w : Workflow) (e l : Execution) :
    openNodes w (e.advancedTo l) ≤ openNodes w e :=
  totalWeight_filter_le _ _ _ (fun _ h => Execution.successfulStep?_advancedTo_isNone h) _

/-- A visit closes its node together with the connections that the new frame takes over. -/
theorem openNodes_visit_lt (w : Workflow) (e : Execution) (v : Visit) {n : Node}
    (hn : n ∈ w.nodes) (h : (e.successfulStep? n.id).isNone = true) :
    openNodes w (e.addStep (v.step n)) + (1 + (w.outgoing n.id).length) ≤ openNodes w e :=
  totalWeight_filter_lt (fun m : Node => 1 + (w.outgoing m.id).length) _ _
    (fun _ h => successfulStep?_addStep_isNone h) hn (successfulStep?_visit e v n) h

/-- Follow the connections of the frames until none is left, or until something stops the walk. -/
def walk (w : Workflow) (look : Execution → Work Execution) (ticket : Ticket) (e : Execution)
    (frames : List Frame) : Work (Execution × Option Stop) :=
  match frames with
  | [] => pure (e, none)
  | frame :: below => do
    if ← isCancelled ticket then return (e, some (.ended (.cancelled w.id)))
    match _hr : frame.remaining with
    | [] => walk w look ticket e below
    | c :: rest =>
      let frames := { frame with remaining := rest } :: below
      match Condition.hold c.conditions c.logic (.obj frame.context) with
      | .error f => return (e, some (.aborted f))
      | .ok false =>
        match ← skip w look e c with
        | (l, .error f) => return (l, some (.aborted f))
        | (l, .ok _) => walk w look ticket (e.advancedTo l) frames
      | .ok true =>
        match _hn : w.node? c.target with
        | none => return (e, some (.aborted (.nothingHas "id")))
        | some n =>
          if (pathOf frames).contains n.id then
            return (e, some (.ended (.cycle (cycleThrough frames n.id) w.id)))
          else if _ho : (e.successfulStep? n.id).isSome then walk w look ticket e frames
          else
            let context := Key.overlay frame.context frame.output
            match ← visit w look e n context with
            | .error (l, stop) => return (l, some stop)
            | .ok (l, v) =>
              walk w look ticket ((e.addStep (v.step n)).advancedTo l)
                (Frame.enter w n context v :: frames)
termination_by openNodes w e + openFrames frames
decreasing_by
  · simp only [openFrames, totalWeight]; omega
  · have := openNodes_advancedTo_le w e l
    simp only [openFrames, totalWeight, _hr, List.length_cons]; omega
  · simp only [openFrames, totalWeight, _hr, List.length_cons]; omega
  · have := openNodes_visit_lt w e v (Graph.mem_nodes_of_node? _hn)
      (by simpa using _ho)
    have := openNodes_advancedTo_le w (e.addStep (v.step n)) l
    simp only [openFrames, totalWeight, _hr, Frame.enter, List.length_cons]; omega

def traverse (w : Workflow) (look : Execution → Work Execution) (ticket : Ticket)
    (e : Execution) : Work (Execution × Option Stop) :=
  match w.triggers with
  | [] => pure (e, some (.ended (.noTriggerToRun w.id)))
  | n :: _ =>
    if (e.successfulStep? n.id).isSome then pure (e, none)
    else do
      match ← visit w look e n e.triggerData with
      | .error (l, stop) => return (l, some stop)
      | .ok (l, v) => walk w look ticket l [Frame.enter w n e.triggerData v]

/-- The record as it stands after a walk, with the failure that takes the run down if there is
one. -/
def concluded (e : Execution) : Option Stop → Except Failure Execution
  | some (.aborted f) => .error f
  | some (.ended err) =>
    .ok { e with
      status := if err.kind = .cancelled then .cancelled else .failed
      error := some err.message }
  | none => .ok { e with status := .completed }

/-- Save the end of a run and count it if it is completed. -/
def close (w : Workflow) (look : Execution → Work Execution) (e : Execution) (finish : Moment) :
    Work (Except Failure Execution) := do
  match ← save e with
  | .error f => return .error f
  | .ok _ =>
    let e ← look e
    if e.status = .completed then
      match ← store (.incrementRunCount w.id w.tenant (e.completedAt.getD finish)) with
      | .ok _ => return .ok e
      | .error f => return .error (.engine (.persistence "update run statistics" f.message w.id))
    else return .ok e

/-- Run a prepared execution to its end. It stays registered until its end is stored; only then is
the listener told. -/
def run (w : Workflow) (look : Execution → Work Execution) (e : Execution) :
    Work (Except Failure Execution) := do
  let ticket ← attach e.id
  let (e, stop) ← traverse w look ticket (← look e)
  match concluded e stop with
  | .error f =>
    release e.id ticket
    return .error f
  | .ok ended =>
    let finish ← now
    match ← close w look { ended with completedAt := some finish } finish with
    | .error f =>
      release e.id ticket
      return .error f
    | .ok e =>
      release e.id ticket
      notify e.id "status" [("status", .str e.status.name), ("error", Value.ofText? e.error)]
      return .ok e

/-- The record that a run of this workflow starts with: the workflow has an id, and all keys of the
data are text. -/
def newExecution (w : Workflow) (data : Fields) (id : String) (start : Moment) :
    Except Failure Execution :=
  match w.id, Output.keyFaults "trigger_data" data with
  | some workflow, [] => .ok ⟨id, workflow, w.tenant, .running, data, [], start, none, none⟩
  | some _, faults => .error (.invalid faults)
  | none, faults => .error (.invalid (⟨[.key "workflow_id"], .notText⟩ :: faults))

/-- Check that the workflow may run, store a running record and register the run. -/
def prepare (w : Workflow) (data : Value) : Work (Except Failure Execution) := do
  if w.status ≠ .active then return .error (.engine (.workflowNotActive w.id))
  match w.checkActivation with
  | .error f => return .error f
  | .ok _ =>
    let id ← freshId
    match Output.fields data with
    | .error f => return .error f
    | .ok fields =>
      let start ← now
      match newExecution w fields id start with
      | .error f => return .error f
      | .ok e =>
        match ← save e with
        | .error f => return .error f
        | .ok _ =>
          let _ ← register e.id
          notify e.id "status" [("status", .str e.status.name)]
          return .ok e

def execute (w : Workflow) (data : Value) : Work (Except Failure Execution) := do
  match ← prepare w data with
  | .error f => return .error f
  | .ok e => run w alone e

end TriggerFlow.Engine
