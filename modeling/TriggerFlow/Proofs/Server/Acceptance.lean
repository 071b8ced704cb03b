import TriggerFlow.Proofs.Server.Updates

/-!
What becomes of a definition that the service is given to store. It is stored and returned, or an
error of the engine says why not and the store is as it was. Two checks come later than the errors
of the engine are looked for: that of the node ids of an updated definition, and that of the name of
a definition from elsewhere. What fails there is refused as invalid data, and the store is as it was
as well.
-/

namespace TriggerFlow.Server

open Engine Program Service
open Store (Memory)

variable {a : Scene} {tenant id : String} {c : Changes} {w : Workflow} {d : Draft} {p : Portable}
  {creator : Option String} {s : State} {moves : List Move} {chances : Nat → Chance} {late : Prop}

/-- How an operation ends that is to store a definition; `late` is the condition under which the
definition is refused by a later check. -/
inductive Decides (late : Prop) (tenant : String) (before : World) :
    Except Failure Workflow × Scene → Prop
  | stored {v : Workflow} {id : String} {after : Scene} (accepted : ¬ late) (named : v.id = some id)
      (found : after.world.memory.workflow? id tenant = some v) :
      Decides late tenant before (.ok v, after)
  | refused {e : EngineError} {after : Scene} (accepted : ¬ late) (same : after.world = before) :
      Decides late tenant before (.error (.engine e), after)
  | invalid {fs : List Fault} {after : Scene} (caught : late) (same : after.world = before) :
      Decides late tenant before (.error (.invalid fs), after)

theorem engine_of_checkIfActive {f : Failure} (h : w.checkIfActive = .error f) :
    ∃ e, f = .engine e := by
  unfold Workflow.checkIfActive Workflow.checkActivation at h
  split at h
  · split at h
    · cases h
      exact ⟨_, rfl⟩
    · cases h
  · cases h

theorem decides_createWorkflow (working : a.Working) (d : Draft) (creator : Option String) :
    Decides False tenant a.world (a.run (createWorkflow tenant d creator)) := by
  cases check : (ofDraft tenant d creator).checkIfActive with
  | ok _ =>
      rw [Scene.run_createWorkflow working check]
      obtain ⟨id, named, found⟩ :=
        found_createWorkflow a.world.memory a.time a.fresh (ofDraft tenant d creator)
      exact .stored not_false named found
  | error f =>
      rw [Scene.run_createWorkflow_of_error check]
      obtain ⟨e, rfl⟩ := engine_of_checkIfActive check
      exact .refused not_false rfl

theorem decides_importWorkflow (working : a.Working) (p : Portable) (creator : Option String) :
    Decides (¬ Schema.Proper p.name) tenant a.world (a.run (importWorkflow tenant p creator)) := by
  by_cases proper : Schema.Proper p.name
  · obtain ⟨d, -, run⟩ := Scene.run_importWorkflow working proper
    rw [run]
    obtain ⟨id, named, found⟩ :=
      found_createWorkflow a.world.memory a.time a.fresh (ofDraft tenant d creator)
    exact .stored (not_not_intro proper) named found
  · obtain ⟨fs, run⟩ := Scene.run_importWorkflow_of_not_proper proper
    rw [run]
    exact .invalid proper rfl

/-- Changes that use a node id twice, of a definition that is there. -/
def Repeats (v : World) (tenant id : String) (c : Changes) : Prop :=
  (∃ w, v.memory.workflow? id tenant = some w) ∧
    ∃ ns, c.nodes = some (some ns) ∧ ¬ (ns.map (·.id)).Nodup

theorem distinct_apply_iff (once : w.toGraph.Distinct) : (c.apply w).toGraph.Distinct ↔
    ∀ ns, c.nodes = some (some ns) → (ns.map (·.id)).Nodup := by
  show (((c.nodes.getD none).getD w.nodes).map (·.id)).Nodup ↔ _
  match c.nodes with
  | none | some none => exact iff_of_true once nofun
  | some (some ns) =>
      constructor
      · intro once ns same
        cases same
        exact once
      · exact fun h => h ns rfl

theorem decides_updateWorkflow (working : a.Working) (filed : a.world.Filed)
    (once : ∀ w, a.world.memory.workflow? id tenant = some w → w.toGraph.Distinct) (c : Changes) :
    Decides (Repeats a.world tenant id c) tenant a.world
      (a.run (updateWorkflow tenant id c)) := by
  cases found : a.world.memory.workflow? id tenant with
  | none =>
      rw [Scene.run_updateWorkflow_none working found]
      refine .refused ?_ rfl
      rintro ⟨⟨w, there⟩, -⟩
      cases found.symm.trans there
  | some w =>
      obtain ⟨stored, mine⟩ := Memory.workflow?_eq_some.mp found
      have named : (c.apply w).id = some id := filed id w stored
      have unique := distinct_apply_iff (c := c) (once w found)
      rw [Scene.run_updateWorkflow working found named]
      by_cases distinct : (c.apply w).toGraph.Distinct
      · have accepted : ¬ Repeats a.world tenant id c := fun ⟨_, ns, given, twice⟩ =>
          twice (unique.mp distinct ns given)
        rw [changed_then_checked distinct]
        cases check : (c.apply w).checkIfActive with
        | ok _ => exact .stored accepted named (workflow?_updated named mine a.world _ w)
        | error f =>
            obtain ⟨e, rfl⟩ := engine_of_checkIfActive check
            exact .refused accepted rfl
      · obtain ⟨i, refused⟩ := changed_of_not_distinct distinct
        rw [refused]
        refine .invalid ⟨⟨w, found⟩, ?_⟩ rfl
        simpa using mt unique.mpr distinct

/-- From wherever the service has come to, a definition that it is given to store is stored and
returned, or an error of the engine refuses it and leaves the world as it is; but changes that use a
node id twice, and a definition from elsewhere whose name is no proper one, are refused as invalid
data, which is no error of the engine. -/
theorem definitions_are_stored_or_refused (received : ∀ m ∈ moves, m.Received)
    (moved : State.empty.follow moves = some s) (working : ∀ n, (chances n).outage = none) :
    (∀ tenant d creator, Decides False tenant s.world
      ((Scene.mk s.world chances).run (createWorkflow tenant d creator))) ∧
    (∀ tenant id c, Decides (Repeats s.world tenant id c) tenant s.world
      ((Scene.mk s.world chances).run (updateWorkflow tenant id c))) ∧
    ∀ tenant p creator, Decides (¬ Schema.Proper p.name) tenant s.world
      ((Scene.mk s.world chances).run (importWorkflow tenant p creator)) := by
  have working : (Scene.mk s.world chances).Working := working
  have fit := (State.hands_of_follow hereditary_fit received moved).stored
  refine ⟨fun tenant d creator => decides_createWorkflow working d creator, ?_,
    fun tenant p creator => decides_importWorkflow working p creator⟩
  intro tenant id c
  have once (w : Workflow) (found : s.world.memory.workflow? id tenant = some w) :
      w.toGraph.Distinct := (fit.found found).distinct
  exact decides_updateWorkflow working (State.filed_of_follow moved) once c

/-- Changes that give two nodes one id. -/
def repeating : Changes :=
  ⟨none, none, none, some (some [⟨"a", .trigger .webhook, [], .origin⟩,
    ⟨"a", .action .logEvent, [], .origin⟩]), none, none⟩

/-- A definition from elsewhere without a name. -/
def nameless : Portable := ⟨⟨[], []⟩, "", none, []⟩

theorem received_described : ∀ m ∈ describedMoves, m.Received := by
  have drafted : Draft.read .data
      { sampleDraft with description := some "Sent on orders" }.document =
        .value { sampleDraft with description := some "Sent on orders" } := rfl
  exact List.forall_mem_cons.mpr ⟨⟨_, _, drafted⟩, received_turns 0 0 1⟩

def faults? {α : Type} : Except Failure α → Option (List Fault)
  | .error (.invalid fs) => some fs
  | _ => none

theorem eq_invalid_of_faults? {α : Type} {r : Except Failure α} {fs : List Fault}
    (h : faults? r = some fs) : r = .error (.invalid fs) := by
  unfold faults? at h
  split at h
  · cases h
    rfl
  · cases h

/-- Both are read without a fault, and yet refused by no error of the engine. -/
theorem invalid_behind_a_reading : ∃ s, State.empty.follow describedMoves = some s ∧
    (∀ m ∈ describedMoves, m.Received) ∧
    Changes.read .request repeating.document = .value repeating ∧
    ((Scene.mk s.world ticking).run (updateWorkflow "tenant" "0" repeating)).1 =
      .error (.invalid [⟨[], .duplicateNode "a"⟩]) ∧
    Portable.read .request nameless.document = .value nameless ∧
    ((Scene.mk s.world ticking).run (importWorkflow "tenant" nameless none)).1 =
      .error (.invalid [⟨[.key "name"], .textTooShort⟩]) := by
  let seen (s : State) : Option (List Fault) × Option (List Fault) :=
    (faults? ((Scene.mk s.world ticking).run (updateWorkflow "tenant" "0" repeating)).1,
      faults? ((Scene.mk s.world ticking).run (importWorkflow "tenant" nameless none)).1)
  have shown : (State.empty.follow describedMoves).map seen =
      some (some [⟨[], .duplicateNode "a"⟩], some [⟨[.key "name"], .textTooShort⟩]) := by
    decide +kernel
  obtain ⟨s, moved, shown⟩ := Option.map_eq_some_iff.mp shown
  obtain ⟨updated, imported⟩ := Prod.mk.inj shown
  exact ⟨s, moved, received_described, rfl, eq_invalid_of_faults? updated, rfl,
    eq_invalid_of_faults? imported⟩

/-- A service that has stored one definition. -/
theorem sample_stored_or_refused : ∃ s, State.empty.follow describedMoves = some s ∧
    s.world.memory.workflows.map (·.1) = ["0"] ∧
    (∀ tenant d creator, Decides False tenant s.world
      ((Scene.mk s.world ticking).run (createWorkflow tenant d creator))) ∧
    (∀ tenant id c, Decides (Repeats s.world tenant id c) tenant s.world
      ((Scene.mk s.world ticking).run (updateWorkflow tenant id c))) ∧
    ∀ tenant p creator, Decides (¬ Schema.Proper p.name) tenant s.world
      ((Scene.mk s.world ticking).run (importWorkflow tenant p creator)) := by
  obtain ⟨s, moved, shown⟩ := Option.map_eq_some_iff.mp
    (show (State.empty.follow describedMoves).map (fun s => s.world.memory.workflows.map (·.1)) =
      some ["0"] by decide +kernel)
  exact ⟨s, moved, shown,
    definitions_are_stored_or_refused received_described moved fun _ => rfl⟩

end TriggerFlow.Server
