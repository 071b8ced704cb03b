import TriggerFlow.Proofs.Server.Alone
import TriggerFlow.Proofs.Server.Edits

/-!
What an update leaves. Of the fields that changes may give, one that is given a value becomes that
value and every other one stays; only the description can be cleared. Identity, statistics and
everything else in the store stay as they were, and reading the definition anew alters no part of
it.
-/

namespace TriggerFlow.Server

open Engine Program Service
open Store (Memory)

variable {α : Type} {tenant id : String} {c : Changes} {w u v : Workflow} {s : State}
  {moves : List Move} {chances : Nat → Chance} {after : Scene}

/-- `Becomes field before after`: what a field is after changes that may give it. -/
inductive Becomes : Option (Option α) → α → α → Prop
  | given (new before : α) : Becomes (some (some new)) before new
  | null (before : α) : Becomes (some none) before before
  | absent (before : α) : Becomes none before before

theorem becomes_getD (field : Option (Option α)) (before : α) :
    Becomes field before ((field.getD none).getD before) := by
  cases field with
  | none => exact .absent before
  | some value =>
      cases value with
      | none => exact .null before
      | some new => exact .given new before

theorem becomes_map_some (field : Option α) (before : α) :
    Becomes (field.map some) before (field.getD before) := by
  cases field with
  | none => exact .absent before
  | some new => exact .given new before

/-- What changes make of a stored definition at some time. -/
structure Replaced (c : Changes) (time : Moment) (before after : Workflow) : Prop where
  name : Becomes c.name before.name after.name
  description : Becomes (c.description.map some) before.description after.description
  status : Becomes c.status before.status after.status
  nodes : Becomes c.nodes before.nodes after.nodes
  connections : Becomes c.connections before.connections after.connections
  tags : Becomes c.tags before.tags after.tags
  id : after.id = before.id
  tenant : after.tenant = before.tenant
  createdBy : after.createdBy = before.createdBy
  createdAt : after.createdAt = before.createdAt
  runCount : after.runCount = before.runCount
  lastRun : after.lastRun = before.lastRun
  updatedAt : after.updatedAt = some time

theorem replaced_updateWorkflow (m : Memory) (c : Changes) (time : Moment) (w : Workflow) :
    Replaced c time w (m.updateWorkflow time (c.apply w) w).1 where
  name := becomes_getD c.name w.name
  description := becomes_map_some c.description w.description
  status := becomes_getD c.status w.status
  nodes := becomes_getD c.nodes w.nodes
  connections := becomes_getD c.connections w.connections
  tags := becomes_getD c.tags w.tags
  id := rfl
  tenant := rfl
  createdBy := rfl
  createdAt := rfl
  runCount := rfl
  lastRun := rfl
  updatedAt := rfl

/-- Two worlds that differ at most in what is stored under one id. -/
structure SameBut (id : String) (v v' : World) : Prop where
  workflows : ∀ other, other ≠ id → v'.memory.workflows.get? other = v.memory.workflows.get? other
  executions : v'.memory.executions = v.memory.executions
  runs : v'.runs = v.runs
  background : v'.background = v.background

theorem sameBut_updated (named : u.id = some id) (v : World) (time : Moment) (w : Workflow) :
    SameBut id v (v.updated time u w) where
  workflows other apart := by
    simp only [World.updated, Memory.updateWorkflow, named]
    exact (Keyed.get?_put ..).trans (if_neg apart)
  executions := rfl
  runs := rfl
  background := rfl

/-- From wherever the service has come to, an update that returns has found a definition, has read
what it made of it as it was, and has put that, and nothing else, into the store: what it returns is
what is stored, and what is found from then on. -/
theorem update_replaces_given_fields (moved : State.empty.follow moves = some s)
    (working : ∀ n, (chances n).outage = none)
    (run : (Scene.mk s.world chances).run (updateWorkflow tenant id c) = (.ok v, after)) :
    ∃ before, s.world.memory.workflow? id tenant = some before ∧
      changed c before = .ok (c.apply before) ∧ Replaced c (chances 1).time before v ∧
      after.world.memory.workflow? id tenant = some v ∧ SameBut id s.world after.world ∧
      (after.run (getWorkflow tenant id)).1 = .ok v := by
  have working : (Scene.mk s.world chances).Working := working
  cases found : s.world.memory.workflow? id tenant with
  | none =>
      rw [Scene.run_updateWorkflow_none working found] at run
      cases run
  | some w =>
      obtain ⟨stored, mine⟩ := Memory.workflow?_eq_some.mp found
      have named : (c.apply w).id = some id := State.filed_of_follow moved id w stored
      rw [Scene.run_updateWorkflow working found named] at run
      split at run
      · cases run
      · next u made =>
        have changed := (changed_of_checked made).1
        obtain ⟨rfl, -⟩ := changed_eq_ok.mp changed
        cases run
        have kept := workflow?_updated named mine s.world (chances 1).time w
        refine ⟨w, rfl, changed, replaced_updateWorkflow _ c _ w, kept,
          sameBut_updated named _ _ _, ?_⟩
        exact congrArg Prod.fst (Scene.run_getWorkflow ((working.after _).after _) kept)

def describedMoves : List Move :=
  let draft := { sampleDraft with description := some "Sent on orders" }
  .submit (.createWorkflow "tenant" draft none) :: turns 0 0 1

/-- The description is cleared, the status is null and so left alone, and two fields are given. -/
def clearing : Changes :=
  ⟨none, some none, some none, none, some (some []), some (some ["orders"])⟩

/-- A clock that goes on by a second with every call. -/
def ticking (n : Nat) : Chance := .calm (.utc (n + 1)) (toString n)

theorem sample_update_replaces : ∃ s v after, State.empty.follow describedMoves = some s ∧
    (Scene.mk s.world ticking).run (updateWorkflow "tenant" "0" clearing) = (.ok v, after) ∧
    (v.name, v.description, v.status, v.connections, v.tags) =
      ("Sample", none, .active, [], ["orders"]) ∧
    ∃ before, s.world.memory.workflow? "0" "tenant" = some before ∧
      changed clearing before = .ok (clearing.apply before) ∧
      Replaced clearing (ticking 1).time before v ∧
      after.world.memory.workflow? "0" "tenant" = some v ∧ SameBut "0" s.world after.world ∧
      (after.run (getWorkflow "tenant" "0")).1 = .ok v := by
  let seen (s : State) : Option (String × Option String × WorkflowStatus × _ × _) :=
    ((Scene.mk s.world ticking).run (updateWorkflow "tenant" "0" clearing)).1.toOption.map fun v =>
      (v.name, v.description, v.status, v.connections, v.tags)
  have shown : (State.empty.follow describedMoves).bind seen =
      some ("Sample", none, .active, [], ["orders"]) := by decide +kernel
  obtain ⟨s, moved, shown⟩ := Option.bind_eq_some_iff.mp shown
  obtain ⟨v, returned, shown⟩ := Option.map_eq_some_iff.mp shown
  cases run : (Scene.mk s.world ticking).run (updateWorkflow "tenant" "0" clearing) with
  | mk result after =>
      rw [run] at returned
      cases result with
      | error f => cases returned
      | ok w =>
          cases returned
          exact ⟨s, v, after, moved, run, shown,
            update_replaces_given_fields moved (fun _ => rfl) run⟩

end TriggerFlow.Server
