import TriggerFlow.Proofs.Reliance
import TriggerFlow.Stream.Publish

/-!
What is published about runs. The listener of a run is told that the run has begun or is over, that
a node is entered, has failed or has given its output, and that a connection was not followed. A
status among these is always the status of a record.
-/

namespace TriggerFlow.Stream

inductive Announced : String → Fields → Prop
  | opened (s : ExecutionStatus) : Announced "status" [("status", .str s.name)]
  | closed (s : ExecutionStatus) (error : Option String) :
      Announced "status" [("status", .str s.name), ("error", Value.ofText? error)]
  | entered (node step : String) :
      Announced "node_start" [("node_id", .str node), ("step_id", .str step)]
  | failed (node message : String) :
      Announced "node_failed" [("node_id", .str node), ("error", .str message)]
  | succeeded (node : String) (output : Fields) :
      Announced "node_complete" [("node_id", .str node), ("output", .obj output)]
  | skipped (node connection : String) :
      Announced "node_skipped" [("node_id", .str node), ("connection_id", .str connection)]

/-- A message about an execution that tells one of these events. -/
def IsUpdate (execution : String) (message : Value) : Prop :=
  ∃ event data, Announced event data ∧
    message = .obj (("type", .str event) :: ("execution_id", .str execution) :: data)

/-- The message says that its execution has come to a terminal status. -/
def isTerminal : Value → Bool
  | .obj fields =>
    match Fields.get? fields "type", Fields.get? fields "status" with
    | some (.str "status"), some (.str s) => ["completed", "failed", "cancelled"].contains s
    | _, _ => false
  | _ => false

variable {execution event : String} {data : Fields} {message : Value}

/-- Nothing that is said about an event takes the place of its type or its execution. -/
theorem Announced.isUpdate (h : Announced event data) (execution : String) :
    IsUpdate execution (.obj (updateMessage execution event data)) := by
  refine ⟨event, data, h, congrArg Value.obj ?_⟩
  cases h <;> rfl

/-- Whether an update is the last of its execution can be told, and depends on its status. -/
theorem IsUpdate.isLast_eq (h : IsUpdate execution message) :
    isLast message = .ok (isTerminal message) := by
  obtain ⟨event, data, announced, rfl⟩ := h
  cases announced with
  | opened s | closed s => cases s <;> rfl
  | entered | failed | succeeded | skipped => rfl

/-- Only an output can hold what has no text, so a terminal status is always written. -/
theorem IsUpdate.exists_text (h : IsUpdate execution message) (final : isTerminal message = true) :
    ∃ text, Json.write .spaced message = .ok text := by
  obtain ⟨event, data, announced, rfl⟩ := h
  cases announced with
  | opened s => exact ⟨_, rfl⟩
  | closed s error => cases error <;> exact ⟨_, rfl⟩
  | entered | failed | succeeded | skipped => cases final

end TriggerFlow.Stream

namespace TriggerFlow.Engine

open Program

/-- Whatever the listener is told is one of the announced events. -/
def Announces : Call → Prop
  | .notify _ event data => Stream.Announced event data
  | _ => True

variable {α : Type} {w : Workflow} {look : Execution → Work Execution} {e : Execution}

abbrev Announcing (prog : Work α) : Prop := prog.Keeps Announces (fun _ => True) fun _ => True

theorem announcing_pure (a : α) : Announcing (pure a : Work α) := keeps_pure trivial

theorem announcing_ask {c : Call} (announces : Announces c) : Announcing (Program.ask c) :=
  keeps_ask announces fun _ _ => trivial

theorem announcing_bind {β : Type} {prog : Work α} {f : α → Work β} (h : Announcing prog)
    (rest : ∀ a, Announcing (f a)) : Announcing (prog >>= f) :=
  keeps_bind h fun a _ => rest a

theorem announcing_notify {execution event : String} {data : Fields}
    (h : Stream.Announced event data) : Announcing (notify execution event data) :=
  ⟨h, fun _ _ => trivial⟩

theorem announcing_stepId : Announcing stepId :=
  announcing_bind (announcing_ask trivial) fun _ => announcing_pure _

theorem announcing_save (e : Execution) : Announcing (save e) := by
  refine announcing_bind (announcing_ask trivial) fun r => ?_
  cases r <;> exact announcing_pure _

theorem announcing_perform (n : Node) (context : Fields) : Announcing (perform n context) := by
  unfold perform
  split
  · exact announcing_pure _
  · refine announcing_bind (announcing_ask trivial) fun r => ?_
    cases r <;> exact announcing_pure _

theorem announcing_visit (looks : ∀ e, Announcing (look e)) (w : Workflow) (e : Execution)
    (n : Node) (context : Fields) : Announcing (visit w look e n context) := by
  refine announcing_bind announcing_stepId fun id => ?_
  refine announcing_bind (announcing_ask trivial) fun start => ?_
  refine announcing_bind (announcing_save _) fun r => ?_
  cases r with
  | error f => exact announcing_pure _
  | ok _ =>
      refine announcing_bind (announcing_notify (.entered n.id id)) fun _ => ?_
      refine announcing_bind (announcing_perform n context) fun r => ?_
      cases r with
      | error f =>
          refine announcing_bind (announcing_ask trivial) fun finish => ?_
          refine announcing_bind (looks _) fun l => ?_
          refine announcing_bind (announcing_save _) fun r => ?_
          cases r with
          | error g => exact announcing_pure _
          | ok _ =>
              refine announcing_bind (announcing_notify (.failed n.id f.shown)) fun _ => ?_
              exact announcing_bind (looks _) fun _ => announcing_pure _
      | ok output =>
          refine announcing_bind (announcing_ask trivial) fun finish => ?_
          refine announcing_bind (looks _) fun l => ?_
          refine announcing_bind (announcing_save _) fun r => ?_
          cases r with
          | error g => exact announcing_pure _
          | ok _ =>
              refine announcing_bind (announcing_notify (.succeeded n.id output)) fun _ => ?_
              exact announcing_bind (looks _) fun _ => announcing_pure _

theorem announcing_skip (looks : ∀ e, Announcing (look e)) (w : Workflow) (e : Execution)
    (c : Connection) : Announcing (skip w look e c) := by
  refine announcing_bind (announcing_ask trivial) fun time => ?_
  refine announcing_bind announcing_stepId fun id => ?_
  refine announcing_bind (announcing_save _) fun r => ?_
  cases r with
  | error f => exact announcing_pure _
  | ok _ =>
      refine announcing_bind (announcing_notify (.skipped c.target c.id)) fun _ => ?_
      exact announcing_bind (looks _) fun _ => announcing_pure _

theorem announcing_walk (looks : ∀ e, Announcing (look e)) (w : Workflow) (ticket : Ticket)
    (e : Execution) (frames : List Frame) : Announcing (walk w look ticket e frames) := by
  -- by the recursion of the walk, with a hypothesis for every turn after which it goes on
  induction e, frames using walk.induct w with
  | case1 e =>
      rw [walk]
      exact announcing_pure _
  | case2 e frame below left skipped passed entered =>
      rw [walk]
      refine announcing_bind (announcing_ask trivial) fun (requested : Bool) => ?_
      cases requested with
      | true => exact announcing_pure _
      | false =>
          obtain ⟨n, x, y, remaining⟩ := frame
          cases remaining with
          | nil => exact left
          | cons c rest =>
              dsimp only
              rw [if_neg Bool.false_ne_true]
              obtain f | holds := Condition.hold c.conditions c.logic (.obj x)
              · exact announcing_pure _
              cases holds with
              | false =>
                  refine announcing_bind (announcing_skip looks w e c) fun s => ?_
                  obtain ⟨l, f | _⟩ := s
                  · exact announcing_pure _
                  · exact skipped c rest rfl l
              | true =>
                  dsimp only
                  split
                  · exact announcing_pure _
                  next m target =>
                  split
                  · exact announcing_pure _
                  split
                  · exact passed c rest rfl
                  next fresh =>
                  refine announcing_bind (announcing_visit looks w e m _) fun s => ?_
                  obtain ⟨l, stop⟩ | ⟨l, v⟩ := s
                  · exact announcing_pure _
                  · exact entered c rest rfl m target fresh l v

theorem announcing_traverse (looks : ∀ e, Announcing (look e)) (w : Workflow) (ticket : Ticket)
    (e : Execution) : Announcing (traverse w look ticket e) := by
  unfold Engine.traverse
  split
  · exact announcing_pure _
  split
  · exact announcing_pure _
  refine announcing_bind (announcing_visit looks w e _ _) fun s => ?_
  obtain ⟨l, stop⟩ | ⟨l, v⟩ := s
  · exact announcing_pure _
  · exact announcing_walk looks w ticket l _

theorem announcing_close (looks : ∀ e, Announcing (look e)) (w : Workflow) (e : Execution)
    (finish : Moment) : Announcing (close w look e finish) := by
  refine announcing_bind (announcing_save e) fun r => ?_
  cases r with
  | error f => exact announcing_pure _
  | ok _ =>
      refine announcing_bind (looks e) fun l => ?_
      split
      · refine announcing_bind (announcing_ask trivial) fun r => ?_
        cases r <;> exact announcing_pure _
      · exact announcing_pure _

/-- A run announces nothing else, however it looks at its record. -/
theorem announcing_run (looks : ∀ e, Announcing (look e)) (w : Workflow) (e : Execution) :
    Announcing (run w look e) := by
  refine announcing_bind (announcing_ask trivial) fun (ticket : Ticket) => ?_
  refine announcing_bind (looks e) fun l => ?_
  refine announcing_bind (announcing_traverse looks w ticket l) fun s => ?_
  dsimp only
  split
  · exact announcing_bind (announcing_ask trivial) fun _ => announcing_pure _
  refine announcing_bind (announcing_ask trivial) fun finish => ?_
  refine announcing_bind (announcing_close looks w _ finish) fun r => ?_
  cases r with
  | error f => exact announcing_bind (announcing_ask trivial) fun _ => announcing_pure _
  | ok d =>
      refine announcing_bind (announcing_ask trivial) fun _ => ?_
      exact announcing_bind (announcing_notify (.closed d.status d.error)) fun _ =>
        announcing_pure _

theorem announcing_prepare (w : Workflow) (data : Value) : Announcing (prepare w data) := by
  unfold prepare
  split
  · exact announcing_pure _
  split
  · exact announcing_pure _
  refine announcing_bind (announcing_ask trivial) fun id => ?_
  split
  · exact announcing_pure _
  refine announcing_bind (announcing_ask trivial) fun start => ?_
  split
  · exact announcing_pure _
  next e _ =>
  refine announcing_bind (announcing_save e) fun r => ?_
  cases r with
  | error f => exact announcing_pure _
  | ok _ =>
      refine announcing_bind (announcing_ask trivial) fun _ => ?_
      exact announcing_bind (announcing_notify (.opened e.status)) fun _ => announcing_pure _

theorem announcing_alone (e : Execution) : Announcing (alone e) := announcing_pure e

theorem announcing_latest (e : Execution) : Announcing (latest e) := announcing_ask trivial

/-- What the listener is told while a run is prepared, or while it goes on, whether or not others
have a hand in its record. -/
inductive Told (execution event : String) (data : Fields) : Prop
  | preparing {w : Workflow} {input : Value} {t : List Exchange} {r : Except Failure Execution}
      {reply : Reply (.notify execution event data)} (ends : (prepare w input).Ends t r)
      (told : ⟨.notify execution event data, reply⟩ ∈ t)
  | running {w : Workflow} {look : Execution → Work Execution} {e : Execution} {t : List Exchange}
      {r : Except Failure Execution} {reply : Reply (.notify execution event data)}
      (looks : look = alone ∨ look = latest) (ends : (run w look e).Ends t r)
      (told : ⟨.notify execution event data, reply⟩ ∈ t)

/-- The messages that are published are about announced events, and nothing else. -/
theorem Told.isUpdate {execution event : String} {data : Fields} (h : Told execution event data) :
    Stream.IsUpdate execution (.obj (Stream.updateMessage execution event data)) := by
  refine Stream.Announced.isUpdate ?_ execution
  cases h with
  | preparing ends told => exact (announcing_prepare _ _).of_mem ends _ told
  | running looks ends told =>
      obtain rfl | rfl := looks
      · exact (announcing_run announcing_alone _ _).of_mem ends _ told
      · exact (announcing_run announcing_latest _ _).of_mem ends _ told

end TriggerFlow.Engine
