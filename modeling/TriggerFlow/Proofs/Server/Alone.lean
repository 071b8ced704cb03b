import TriggerFlow.Proofs.Server.Definitions
import TriggerFlow.Proofs.Store.Histories
import TriggerFlow.Proofs.Workflow.Documents

/-!
Operations that nobody comes in between. From wherever the service has come to, an operation on
definitions makes its calls one after the other over a store that works, so that what it gives and
what it leaves can be said at once. Every stored definition bears the id that it is stored under,
which is what an update writes it back by.
-/

namespace TriggerFlow.Server

open Engine Program Service
open Store (Memory)

/-- What is created is found, under the id that it was given. -/
theorem found_createWorkflow (m : Memory) (time : Moment) (fresh : String) (w : Workflow) :
    ∃ id, (m.createWorkflow time fresh w).1.id = some id ∧
      (m.createWorkflow time fresh w).2.workflow? id w.tenant =
        some (m.createWorkflow time fresh w).1 := by
  refine ⟨Memory.idFor w fresh, rfl, Memory.workflow?_eq_some.mpr ⟨?_, rfl⟩⟩
  exact (Keyed.get?_put ..).trans (if_pos rfl)

/-- A world, and what its next calls will be given from outside. -/
structure Scene where
  world : World
  chances : Nat → Chance

namespace Scene

variable {α β : Type} {a : Scene} {tenant id : String} {w v : Workflow} {creator : Option String}

def answer (c : Call) (a : Scene) : Reply c × Scene :=
  ((a.world.perform (a.chances 0) c).1,
    ⟨(a.world.perform (a.chances 0) c).2, fun n => a.chances (n + 1)⟩)

/-- Do some work with nobody coming in between. -/
def run (a : Scene) (p : Work α) : α × Scene := Program.run answer p a

/-- The store does not fail. -/
def Working (a : Scene) : Prop := ∀ n, (a.chances n).outage = none

/-- The scene after a call that left this in the store. -/
def after (a : Scene) (m : Memory) : Scene :=
  ⟨{ a.world with memory := m }, fun n => a.chances (n + 1)⟩

def time (a : Scene) : Moment := (a.chances 0).time

def fresh (a : Scene) : String := (a.chances 0).id

theorem Working.after (h : a.Working) (m : Memory) : (a.after m).Working := fun n => h (n + 1)

theorem run_bind (a : Scene) (p : Work α) (f : α → Work β) :
    a.run (p >>= f) = (a.run p).2.run (f (a.run p).1) :=
  Program.run_bind answer p f a

theorem run_map (a : Scene) (f : α → β) (p : Work α) :
    a.run (f <$> p) = (f (a.run p).1, (a.run p).2) :=
  a.run_bind p (pure ∘ f)

theorem run_store (h : a.Working) {c : Store.Call} {r : Store.Reply c} {m : Memory}
    (replied : a.world.memory.reply a.time a.fresh c = (r, m)) :
    a.run (store c) = (r, a.after m) := by
  have performed :
      a.world.perform (a.chances 0) (.store c) = (r, { a.world with memory := m }) := by
    rw [perform_store (h 0)]
    exact congrArg (fun x => (x.1, { a.world with memory := x.2 })) replied
  exact congrArg (fun x => (x.1, (⟨x.2, fun n => a.chances (n + 1)⟩ : Scene))) performed

/-- A guarded call gives what the store does, if its failures are errors of the engine. -/
theorem run_guarded (h : a.Working) {action : String} {workflow : Option String} {c : Store.Call}
    {r : Store.Reply c} {m : Memory} (replied : a.world.memory.reply a.time a.fresh c = (r, m))
    (own : ∀ f, r = .error f → ∃ e, f = .engine e) :
    a.run (guarded action workflow c) = (r, a.after m) := by
  rw [guarded, run_bind, run_store h replied]
  cases r with
  | ok r => rfl
  | error f =>
      obtain ⟨e, rfl⟩ := own f rfl
      rfl

theorem run_getWorkflow (h : a.Working) (found : a.world.memory.workflow? id tenant = some w) :
    a.run (getWorkflow tenant id) = (.ok w, a.after a.world.memory) := by
  have replied : a.world.memory.reply a.time a.fresh (.getWorkflow id tenant) =
      (.ok (some w), a.world.memory) := by rw [Memory.reply, found]
  rw [getWorkflow, run_bind, run_guarded h replied (fun _ same => by cases same)]
  rfl

theorem run_getWorkflow_none (h : a.Working) (lost : a.world.memory.workflow? id tenant = none) :
    a.run (getWorkflow tenant id) =
      (.error (.engine (.workflowNotFound (some id))), a.after a.world.memory) := by
  have replied : a.world.memory.reply a.time a.fresh (.getWorkflow id tenant) =
      (.ok none, a.world.memory) := by rw [Memory.reply, lost]
  rw [getWorkflow, run_bind, run_guarded h replied (fun _ same => by cases same)]
  rfl

/-- A definition that is created is stored, unless it is active and may not go live. -/
theorem run_createWorkflow (h : a.Working) {d : Draft}
    (check : (ofDraft tenant d creator).checkIfActive = .ok ()) :
    a.run (createWorkflow tenant d creator) =
      (.ok (a.world.memory.createWorkflow a.time a.fresh (ofDraft tenant d creator)).1,
        a.after (a.world.memory.createWorkflow a.time a.fresh (ofDraft tenant d creator)).2) := by
  unfold createWorkflow
  dsimp only
  rw [check]
  dsimp only
  rw [run_bind, run_guarded h rfl (fun _ same => by cases same)]
  rfl

theorem run_createWorkflow_of_error {d : Draft} {f : Failure}
    (check : (ofDraft tenant d creator).checkIfActive = .error f) :
    a.run (createWorkflow tenant d creator) = (.error f, a) := by
  unfold createWorkflow
  dsimp only
  rw [check]
  rfl

theorem run_importWorkflow (h : a.Working) {p : Portable} (proper : Schema.Proper p.name) :
    ∃ d, draftOf p = .ok d ∧ a.run (importWorkflow tenant p creator) =
      (.ok (a.world.memory.createWorkflow a.time a.fresh (ofDraft tenant d creator)).1,
        a.after (a.world.memory.createWorkflow a.time a.fresh (ofDraft tenant d creator)).2) := by
  have drafted := draftOf_eq_ok.mpr ⟨proper, rfl⟩
  refine ⟨_, drafted, ?_⟩
  rw [importWorkflow, drafted]
  exact run_createWorkflow h rfl

theorem run_importWorkflow_of_not_proper {p : Portable} (improper : ¬ Schema.Proper p.name) :
    ∃ fs, a.run (importWorkflow tenant p creator) = (.error (.invalid fs), a) := by
  cases read : (Schema.nonemptyText (.str p.name)).under (.key "name") with
  | value name =>
      obtain ⟨same, proper⟩ := Schema.nonemptyText_eq_value.mp (Reading.under_eq_value.mp read)
      cases same
      exact absurd proper improper
  | faults fs =>
      refine ⟨fs, ?_⟩
      rw [importWorkflow, draftOf, read]
      rfl

theorem run_exportWorkflow (h : a.Working)
    (found : a.world.memory.workflow? id tenant = some w) :
    a.run (exportWorkflow tenant id) = (.ok (portable w), a.after a.world.memory) := by
  rw [exportWorkflow, run_bind, run_getWorkflow h found]
  rfl

/-- A copy is made from what is found, by the time that an id was drawn. -/
theorem run_duplicateWorkflow (h : a.Working)
    (found : a.world.memory.workflow? id tenant = some w) (creator : Option String) :
    ∃ (b : Scene) (copied : String), b.world = a.world ∧ b.Working ∧
      a.run (duplicateWorkflow tenant id creator) =
        (.ok (a.world.memory.createWorkflow b.time b.fresh (w.copy copied creator)).1,
          b.after (a.world.memory.createWorkflow b.time b.fresh (w.copy copied creator)).2) := by
  let b : Scene := ⟨a.world, fun n => a.chances (n + 2)⟩
  have works : b.Working := fun n => h (n + 2)
  refine ⟨b, (a.chances 1).id, rfl, works, ?_⟩
  rw [duplicateWorkflow, run_bind, run_getWorkflow h found]
  exact run_guarded works rfl fun _ same => by cases same

/-- An update of a definition that is there. -/
theorem run_updateWorkflow (h : a.Working) {c : Changes}
    (found : a.world.memory.workflow? id tenant = some w) (filed : w.id = some id) :
    a.run (updateWorkflow tenant id c) =
      match (do let v ← changed c w; v.checkIfActive; return v : Except Failure Workflow) with
      | .error f => (.error f, a.after a.world.memory)
      | .ok v =>
        let b := a.after a.world.memory
        (.ok (a.world.memory.updateWorkflow b.time v w).1,
          b.after (a.world.memory.updateWorkflow b.time v w).2) := by
  rw [updateWorkflow, run_bind, run_getWorkflow h found]
  dsimp only
  split
  · next f made =>
    rw [made]
    rfl
  · next v made =>
    rw [made]
    obtain ⟨changed, -⟩ := changed_of_checked made
    obtain ⟨rfl, -⟩ := changed_eq_ok.mp changed
    have current : a.world.memory.updated? (c.apply w) = some w := by
      rw [Memory.updated?]
      show w.id.bind (fun id => a.world.memory.workflow? id w.tenant) = some w
      rw [filed, Option.bind_some, (Memory.workflow?_eq_some.mp found).2, found]
    refine run_guarded (h.after _) ?_ (fun _ same => by cases same)
    show a.world.memory.reply _ _ _ = _
    simp only [Memory.reply, current]
    rfl

theorem run_updateWorkflow_none (h : a.Working) {c : Changes}
    (lost : a.world.memory.workflow? id tenant = none) :
    a.run (updateWorkflow tenant id c) =
      (.error (.engine (.workflowNotFound (some id))), a.after a.world.memory) := by
  rw [updateWorkflow, run_bind, run_getWorkflow_none h lost]
  rfl

end Scene

section Filed

variable {v : World} {s s' : State} {m : Move} {moves : List Move}

/-- Every stored definition bears the id that it is stored under. -/
def World.Filed (v : World) : Prop := ∀ i w, v.memory.workflows.get? i = some w → w.id = some i

theorem World.Filed.perform (h : v.Filed) (o : Chance) (c : Call) : (v.perform o c).2.Filed := by
  cases c with
  | store c =>
      unfold World.perform
      dsimp only
      split
      · exact h
      · exact Memory.Filed.reply h o.time o.id c
  | _ => exact h

theorem filed_goes {v' : World} {o : Chance} {task task' : Task} {new : List Task}
    (goes : Goes v o task task' v' new) (filed : v.Filed) : v'.Filed := by
  cases goes with
  | waits => exact filed
  | @answered _ _ c => exact filed.perform o c

theorem State.filed_of_follow (moved : State.empty.follow moves = some s) : s.world.Filed := by
  have start : State.empty.world.Filed := fun i w found => by cases found
  refine follow_preserves (P := fun s => s.world.Filed) moved (fun _ _ => trivial) start ?_
  intro s m s' _ moved filed
  cases m with
  | submit o =>
      cases moved
      exact filed
  | go i o =>
      obtain ⟨task, task', new, turns⟩ := State.turns_of_move moved
      exact filed_goes turns.goes filed

end Filed

end TriggerFlow.Server
