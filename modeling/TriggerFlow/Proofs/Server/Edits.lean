import TriggerFlow.Proofs.Server.Definitions

/-!
Two edits of one definition at the same time. An edit reads the whole definition, and writes what it
makes of it whatever was written since. So two edits have the effect of one after the other only if
one was done before the other began to read; otherwise only the last one to write has any effect.
-/

namespace TriggerFlow.Server

open Engine Program Service
open Store (Memory)

variable {α : Type} {tenant id : String} {f g : Workflow → Except Failure Workflow}
  {u v x : Workflow} {w : World} {s s' s₀ : State} {i j k : Nat} {o : Chance} {task task' : Task}
  {moves : List Move}

/-- The operations that edit a definition, with what they make of it. -/
inductive Edits (tenant id : String) : Operation → (Workflow → Except Failure Workflow) → Prop
  | update (c : Changes) : Edits tenant id (.updateWorkflow tenant id c)
      fun w => do let v ← changed c w; v.checkIfActive; return v
  | toggle : Edits tenant id (.toggleStatus tenant id) Workflow.toggled

section Stages

def Failing (p : Work (Except Failure α)) : Prop := ∃ f, p = .done (.error f)

/-- A program that is done if the store takes this definition, and fails otherwise. -/
inductive Writes (u : Workflow) : Work (Except Failure α) → Prop
  | intro {next : Store.Reply (.updateWorkflow u) → Work (Except Failure α)}
      (ok : ∀ x, ∃ a, next (.ok x) = .done (.ok a)) (error : ∀ f, Failing (next (.error f))) :
      Writes u (.call (.store (.updateWorkflow u)) next)

/-- A program that writes what it makes of the definition it reads. -/
inductive Reads (tenant id : String) (f : Workflow → Except Failure Workflow) :
    Work (Except Failure α) → Prop
  | intro {next : Store.Reply (.getWorkflow id tenant) → Work (Except Failure α)}
      (rest : ∀ r, Failing (next r) ∨ ∃ v u, r = .ok (some v) ∧ f v = .ok u ∧ Writes u (next r)) :
      Reads tenant id f (.call (.store (.getWorkflow id tenant)) next)

theorem writes_guarded (action : String) (workflow : Option String) (u : Workflow) :
    Writes u (guarded action workflow (.updateWorkflow u)) := by
  refine .intro (fun x => ⟨x, rfl⟩) fun f => ?_
  cases f <;> exact ⟨_, rfl⟩

/-- What an edit does once it has read a definition. -/
def writeBack (id : String) (made : Except Failure Workflow) : Work (Except Failure Workflow) :=
  match made with
  | .error g => return .error g
  | .ok u => guarded "update workflow" (some id) (.updateWorkflow u)

theorem reads_edit (f : Workflow → Except Failure Workflow) : Reads tenant id f (do
    match ← getWorkflow tenant id with
    | .error g => return .error g
    | .ok w => writeBack id (f w) : Work (Except Failure Workflow)) := by
  refine .intro fun r => ?_
  match r with
  | .error g => cases g <;> exact .inl ⟨_, rfl⟩
  | .ok none => exact .inl ⟨_, rfl⟩
  | .ok (some v) =>
      cases made : f v with
      | error g =>
          left
          show Failing (writeBack id (f v))
          rw [made]
          exact ⟨g, rfl⟩
      | ok u =>
          refine .inr ⟨v, u, rfl, made, ?_⟩
          show Writes u (writeBack id (f v))
          rw [made]
          exact writes_guarded "update workflow" (some id) u

theorem Edits.reads {a : Operation} (h : Edits tenant id a f) : Reads tenant id f a.work := by
  cases h with
  | update c => exact reads_edit _
  | toggle => exact reads_edit _

theorem Edits.keeps {a : Operation} (h : Edits tenant id a f) (made : f v = .ok u) :
    u.id = v.id ∧ u.tenant = v.tenant := by
  cases h with
  | update c =>
      have reread :=
        Workflow.reread_of_read (Reading.toExcept_eq_ok.mp (changed_of_checked made).1)
      exact ⟨reread.id, reread.tenant⟩
  | toggle =>
      obtain rfl | ⟨-, rfl⟩ := Workflow.toggled_eq_ok made <;> exact ⟨rfl, rfl⟩

/-- What edits change: statistics and dates are not among it. -/
def definition (w : Workflow) : Portable × WorkflowStatus := (portable w, w.status)

/-- The definition that is stored for a tenant under an id. -/
def World.shows (w : World) (tenant id : String) : Option (Portable × WorkflowStatus) :=
  (w.memory.workflow? id tenant).map definition

theorem updated?_eq (named : u.id = some id) (owned : u.tenant = tenant) (m : Memory) :
    m.updated? u = m.workflow? id tenant := by
  rw [Memory.updated?, named, owned]
  rfl

theorem found_of_perform
    (h : (w.perform o (.store (.getWorkflow id tenant))).1 = .ok (some v)) :
    w.memory.workflow? id tenant = some v := by
  unfold World.perform at h
  dsimp only at h
  split at h
  · cases h
  · exact Except.ok.inj h

theorem exists_of_perform {y : Workflow}
    (h : (w.perform o (.store (.updateWorkflow u))).1 = .ok y) :
    o.outage = none ∧ ∃ x, w.memory.updated? u = some x := by
  unfold World.perform at h
  dsimp only at h
  split at h
  · cases h
  · next working =>
    refine ⟨working, ?_⟩
    unfold Memory.reply at h
    dsimp only at h
    split at h
    · next x found => exact ⟨x, found⟩
    · cases h

theorem Reads.go (h : Reads tenant id f task.rest) (awake : task.waiting = none) (w : World)
    (o : Chance) : ∃ task', task.go w o = some (task', w, []) ∧ task'.waiting = none ∧
      (Failing task'.rest ∨
        ∃ v u, w.memory.workflow? id tenant = some v ∧ f v = .ok u ∧ Writes u task'.rest) := by
  obtain ⟨job, past, rest, waiting⟩ := task
  obtain rfl : waiting = none := awake
  have h : Reads tenant id f rest := h
  cases h with
  | @intro next outcome =>
      let reply := (w.perform o (.store (.getWorkflow id tenant))).1
      have went : Task.go w o ⟨job, past, .call (.store (.getWorkflow id tenant)) next, none⟩ =
          some (⟨job, past ++ [⟨.store (.getWorkflow id tenant), reply⟩], next reply, none⟩,
            (w.perform o (.store (.getWorkflow id tenant))).2, []) := rfl
      have same : (w.perform o (.store (.getWorkflow id tenant))).2 = w := by
        unfold World.perform
        dsimp only
        split <;> rfl
      rw [same] at went
      refine ⟨_, went, rfl, (outcome reply).imp_right ?_⟩
      rintro ⟨v, u, found, made, writes⟩
      exact ⟨v, u, found_of_perform found, made, writes⟩

/-- The world after an update that found a definition. -/
def World.updated (w : World) (time : Moment) (u x : Workflow) : World :=
  { w with memory := (w.memory.updateWorkflow time u x).2 }

theorem workflow?_updated (named : u.id = some id) (owned : u.tenant = tenant) (w : World)
    (time : Moment) (x : Workflow) :
    (w.updated time u x).memory.workflow? id tenant =
      some (w.memory.updateWorkflow time u x).1 := by
  rw [Memory.workflow?_eq_some]
  refine ⟨?_, owned⟩
  simp only [World.updated, Memory.updateWorkflow, named]
  exact (Keyed.get?_put ..).trans (if_pos rfl)

theorem shows_updated (named : u.id = some id) (owned : u.tenant = tenant) (w : World)
    (time : Moment) (x : Workflow) :
    (w.updated time u x).shows tenant id = some (definition u) := by
  rw [World.shows, workflow?_updated named owned]
  rfl

theorem perform_updateWorkflow (found : w.memory.updated? u = some x) (working : o.outage = none) :
    w.perform o (.store (.updateWorkflow u)) =
      (.ok (w.memory.updateWorkflow o.time u x).1, w.updated o.time u x) := by
  rw [perform_store working]
  simp only [Memory.reply, found]
  rfl

theorem Writes.go (h : Writes u task.rest) (awake : task.waiting = none) (w : World)
    (o : Chance) : ∃ task' w', task.go w o = some (task', w', []) ∧
      (Failing task'.rest ∨ o.outage = none ∧ (∃ a, task'.rest = .done (.ok a)) ∧
        ∃ x, w.memory.updated? u = some x ∧ w' = w.updated o.time u x) := by
  obtain ⟨job, past, rest, waiting⟩ := task
  obtain rfl : waiting = none := awake
  have h : Writes u rest := h
  cases h with
  | @intro next ok error =>
      let reply := (w.perform o (.store (.updateWorkflow u))).1
      refine ⟨⟨job, past ++ [⟨.store (.updateWorkflow u), reply⟩], next reply, none⟩, _, rfl, ?_⟩
      cases replied : (w.perform o (.store (.updateWorkflow u))).1 with
      | error g =>
          left
          show Failing (next (w.perform o (.store (.updateWorkflow u))).1)
          rw [replied]
          exact error g
      | ok y =>
          obtain ⟨working, x, found⟩ := exists_of_perform replied
          have performed := perform_updateWorkflow found working
          refine .inr ⟨working, ?_, x, found, congrArg Prod.snd performed⟩
          show ∃ a, next (w.perform o (.store (.updateWorkflow u))).1 = .done (.ok a)
          rw [performed]
          exact ok _

theorem Writes.go_of_found (h : Writes u task.rest) (awake : task.waiting = none)
    (found : w.memory.updated? u = some x) (working : o.outage = none) :
    ∃ task', task.go w o = some (task', w.updated o.time u x, []) ∧
      ∃ a, task'.rest = .done (.ok a) := by
  obtain ⟨job, past, rest, waiting⟩ := task
  obtain rfl : waiting = none := awake
  have h : Writes u rest := h
  cases h with
  | @intro next ok error =>
      have went : Task.go w o ⟨job, past, .call (.store (.updateWorkflow u)) next, none⟩ =
          some (⟨job, past ++ [⟨.store (.updateWorkflow u),
              (w.perform o (.store (.updateWorkflow u))).1⟩],
            next (w.perform o (.store (.updateWorkflow u))).1, none⟩,
            (w.perform o (.store (.updateWorkflow u))).2, []) := rfl
      rw [perform_updateWorkflow found working] at went
      exact ⟨_, went, ok _⟩

end Stages

section Two

variable {t t' t₁ : Task} {w' : World} {s₁ : State} {u' : Workflow} {calls : List (Nat × Chance)}

namespace State

/-- Let tasks go on, one call after the other. -/
def serve (s : State) (calls : List (Nat × Chance)) : Option State :=
  s.follow (calls.map fun c => .go c.1 c.2)

theorem serve_cons : s.serve ((i, o) :: calls) = some s' ↔
    ∃ s₁, s.move (.go i o) = some s₁ ∧ s₁.serve calls = some s' := follow_cons

def Returned (s : State) (i : Nat) : Prop :=
  ∃ t a, s.tasks[i]? = some t ∧ t.rest = .done (.ok a)

theorem go_of_move (found : s.tasks[i]? = some t) (moved : s.move (.go i o) = some s') :
    ∃ t' new, t.go s.world o = some (t', s'.world, new) ∧ s'.tasks = s.tasks.set i t' ++ new := by
  obtain ⟨task, there, moved⟩ := Option.bind_eq_some_iff.mp moved
  cases found.symm.trans there
  obtain ⟨⟨t', w', new⟩, went, rfl⟩ := Option.map_eq_some_iff.mp moved
  exact ⟨t', new, went, rfl⟩

theorem go_done {r : Except Failure t.job.Given} (done : t.rest = .done r) (w : World)
    (o : Chance) : t.go w o = none := by
  obtain ⟨job, past, rest, waiting⟩ := t
  have done : rest = .done r := done
  rw [done]
  rfl

theorem stays_of_done {r : Except Failure t.job.Given} (done : t.rest = .done r)
    (found : s.tasks[i]? = some t) (served : s.serve calls = some s') : s'.tasks[i]? = some t := by
  induction calls generalizing s with
  | nil =>
      cases served
      exact found
  | cons c calls ih =>
      obtain ⟨s₁, moved, served⟩ := serve_cons.mp served
      refine ih ?_ served
      obtain ⟨task, there, -⟩ := Option.bind_eq_some_iff.mp moved
      obtain ⟨t', new, went, tasks⟩ := go_of_move there moved
      by_cases same : c.1 = i
      · rw [same] at there
        cases found.symm.trans there
        rw [go_done done] at went
        cases went
      · rw [tasks, List.getElem?_append_left, List.getElem?_set_ne same, found]
        rw [List.length_set]
        exact (List.getElem?_eq_some_iff.mp found).1

theorem not_returned (found : s.tasks[i]? = some t) (unfinished : ∀ a, t.rest ≠ .done (.ok a)) :
    ¬ s.Returned i := by
  rintro ⟨task, a, there, finished⟩
  have same : t = task := Option.some.inj (found.symm.trans there)
  subst same
  exact unfinished a finished

theorem not_returned_of_failing (failing : Failing t.rest) (found : s.tasks[i]? = some t)
    (served : s.serve calls = some s') : ¬ s'.Returned i := by
  obtain ⟨g, failed⟩ := failing
  refine not_returned (stays_of_done failed found served) fun a finished => ?_
  cases failed.symm.trans finished

end State

/-- Two tasks, and no others. -/
structure Duo (s : State) (i j : Nat) (t t' : Task) : Prop where
  apart : i ≠ j
  first : s.tasks[i]? = some t
  second : s.tasks[j]? = some t'
  only : ∀ k task, s.tasks[k]? = some task → k = i ∨ k = j

theorem Duo.swap (h : Duo s i j t t') : Duo s j i t' t :=
  ⟨h.apart.symm, h.second, h.first, fun k task found => (h.only k task found).symm⟩

theorem Duo.turn (h : Duo s i j t t') (moved : s.move (.go k o) = some s') : k = i ∨ k = j := by
  obtain ⟨task, there, -⟩ := Option.bind_eq_some_iff.mp moved
  exact h.only k task there

theorem Duo.go (h : Duo s i j t t') (went : t.go s.world o = some (t₁, w', [])) :
    ∃ s₁, s.move (.go i o) = some s₁ ∧ s₁.world = w' ∧ Duo s₁ i j t₁ t' := by
  refine ⟨⟨w', o.id :: s.drawn, s.tasks.set i t₁⟩, ?_, rfl, h.apart, ?_, ?_, ?_⟩
  · simp [State.move, h.first, went]
  · have inside := (List.getElem?_eq_some_iff.mp h.first).1
    simp [inside]
  · exact (List.getElem?_set_ne h.apart).trans h.second
  · intro k task found
    by_cases same : i = k
    · exact .inl same.symm
    · exact h.only k task ((List.getElem?_set_ne same).symm.trans found)

theorem Duo.over {r : Except Failure t.job.Given} {r' : Except Failure t'.job.Given}
    (h : Duo s i j t t') (done : t.rest = .done r) (done' : t'.rest = .done r')
    (served : s.serve calls = some s') : calls = [] ∧ s' = s := by
  cases calls with
  | nil =>
      cases served
      exact ⟨rfl, rfl⟩
  | cons c calls =>
      obtain ⟨s₁, moved, -⟩ := State.serve_cons.mp served
      obtain same | same := h.turn moved
      · obtain ⟨_, _, went, -⟩ := State.go_of_move (same ▸ h.first) moved
        rw [State.go_done done] at went
        cases went
      · obtain ⟨_, _, went, -⟩ := State.go_of_move (same ▸ h.second) moved
        rw [State.go_done done'] at went
        cases went

structure Pending (u : Workflow) (t : Task) : Prop where
  writes : Writes u t.rest
  awake : t.waiting = none

/-- A task that is about to read a definition and to edit it. -/
structure Poised (tenant id : String) (f : Workflow → Except Failure Workflow) (t : Task) :
    Prop where
  reads : Reads tenant id f t.rest
  awake : t.waiting = none

theorem Pending.not_returned (pending : Pending u t) (found : s.tasks[i]? = some t) :
    ¬ s.Returned i := by
  refine State.not_returned found fun a finished => ?_
  have writes := pending.writes
  rw [finished] at writes
  cases writes

theorem Poised.not_returned (poised : Poised tenant id f t) (found : s.tasks[i]? = some t) :
    ¬ s.Returned i := by
  refine State.not_returned found fun a finished => ?_
  have reads := poised.reads
  rw [finished] at reads
  cases reads

/-- Where the other task is done, this one makes the next call. -/
theorem Duo.next {r : Except Failure t'.job.Given} (h : Duo s i j t t') (done : t'.rest = .done r)
    (served : s.serve calls = some s') (unfinished : ¬ s.Returned i) (returned : s'.Returned i) :
    ∃ o rest s₁, calls = (i, o) :: rest ∧ s.move (.go i o) = some s₁ ∧
      s₁.serve rest = some s' := by
  cases calls with
  | nil =>
      cases served
      exact absurd returned unfinished
  | cons c calls =>
      obtain ⟨s₁, moved, rest⟩ := State.serve_cons.mp served
      obtain same | same := h.turn moved
      · obtain ⟨k, o⟩ := c
        obtain rfl : k = i := same
        exact ⟨o, calls, s₁, rfl, moved, rest⟩
      · obtain ⟨_, _, went, -⟩ := State.go_of_move (same ▸ h.second) moved
        rw [State.go_done done] at went
        cases went

/-- Where the other task is done, this one writes last. -/
theorem Duo.last {r : Except Failure t'.job.Given} (h : Duo s i j t t') (pending : Pending u t)
    (done : t'.rest = .done r) (served : s.serve calls = some s') (returned : s'.Returned i) :
    ∃ o x, calls = [(i, o)] ∧ o.outage = none ∧ s.world.memory.updated? u = some x ∧
      s'.world = s.world.updated o.time u x := by
  obtain ⟨o, rest, s₁, rfl, moved, served⟩ :=
    h.next done served (pending.not_returned h.first) returned
  obtain ⟨t₁, w', went, outcome⟩ := pending.writes.go pending.awake s.world o
  obtain ⟨s₂, moved', world, duo⟩ := h.go went
  cases moved.symm.trans moved'
  obtain failing | ⟨working, ⟨a, finished⟩, x, found, rfl⟩ := outcome
  · exact absurd returned (State.not_returned_of_failing failing duo.first served)
  · obtain ⟨rfl, rfl⟩ := duo.over finished done served
    exact ⟨o, x, rfl, working, found, world⟩

/-- Both tasks have read. Where the first writes before the second, the second has the last word. -/
theorem Duo.overwritten (h : Duo s i j t t') (pending : Pending u t) (pending' : Pending u' t')
    (named : u'.id = some id) (owned : u'.tenant = tenant) (moved : s.move (.go i o) = some s₁)
    (served : s₁.serve calls = some s') (returned : s'.Returned i) (returned' : s'.Returned j) :
    ∃ o', calls = [(j, o')] ∧ o'.outage = none ∧
      s'.world.shows tenant id = some (definition u') := by
  obtain ⟨t₁, w', went, outcome⟩ := pending.writes.go pending.awake s.world o
  obtain ⟨s₂, moved', -, duo⟩ := h.go went
  cases moved.symm.trans moved'
  obtain failing | ⟨-, ⟨a, finished⟩, -⟩ := outcome
  · exact absurd returned (State.not_returned_of_failing failing duo.first served)
  · obtain ⟨o', x, rfl, working, -, world⟩ := duo.swap.last pending' finished served returned'
    refine ⟨o', rfl, working, ?_⟩
    rw [world]
    exact shows_updated named owned s₁.world o'.time x

theorem Duo.alone (h : Duo s i j t t') (went : t.go s.world o = some (t₁, s.world, []))
    (pending : Pending u t₁) (named : u.id = some id) (owned : u.tenant = tenant)
    (found : s.world.memory.workflow? id tenant = some x) {o' : Chance}
    (working : o'.outage = none) :
    ∃ s', s.serve [(i, o), (i, o')] = some s' ∧ s'.Returned i ∧
      s'.world.shows tenant id = some (definition u) := by
  obtain ⟨s₁, moved, world, duo⟩ := h.go went
  have there : s₁.world.memory.updated? u = some x := by
    rw [updated?_eq named owned, world, found]
  obtain ⟨t₂, went', a, finished⟩ := pending.writes.go_of_found pending.awake there working
  obtain ⟨s', moved', world', duo'⟩ := duo.go went'
  refine ⟨s', State.serve_cons.mpr ⟨s₁, moved, State.serve_cons.mpr ⟨s', moved', rfl⟩⟩,
    ⟨t₂, a, duo'.first, finished⟩, ?_⟩
  rw [world']
  exact shows_updated named owned s₁.world o'.time x

def World.Named (w : World) (tenant id : String) : Prop :=
  ∀ v, w.memory.workflow? id tenant = some v → v.id = some id

structure Editing (tenant id : String) (f : Workflow → Except Failure Workflow) (t : Task) : Prop
    extends Poised tenant id f t where
  keeps : ∀ {v u}, f v = .ok u → u.id = v.id ∧ u.tenant = v.tenant

/-- An edit that has read what is stored, and is about to write what it makes of it. -/
structure Midway (w : World) (tenant id : String) (f : Workflow → Except Failure Workflow)
    (v u : Workflow) (t : Task) : Prop extends Pending u t where
  found : w.memory.workflow? id tenant = some v
  made : f v = .ok u
  named : u.id = some id
  owned : u.tenant = tenant

theorem Edits.editing {a : Operation} (h : Edits tenant id a f) :
    Editing tenant id f (.start (.operation a)) :=
  ⟨⟨h.reads, rfl⟩, h.keeps⟩

theorem Editing.go (h : Editing tenant id f t) (known : w.Named tenant id) (o : Chance) :
    ∃ t', t.go w o = some (t', w, []) ∧
      (Failing t'.rest ∨ ∃ v u, Midway w tenant id f v u t') := by
  obtain ⟨t', went, awake, failing | ⟨v, u, found, made, writes⟩⟩ := h.reads.go h.awake w o
  · exact ⟨t', went, .inl failing⟩
  · obtain ⟨named, owned⟩ := h.keeps made
    exact ⟨t', went, .inr ⟨v, u, ⟨writes, awake⟩, found, made, named.trans (known v found),
      owned.trans (Memory.workflow?_eq_some.mp found).2⟩⟩

/-- Where the other task is done, this one reads, and writes what it makes of what it has read. -/
theorem Duo.whole {r : Except Failure t'.job.Given} (h : Duo s i j t t')
    (editing : Editing tenant id f t) (known : s.world.Named tenant id) (done : t'.rest = .done r)
    (served : s.serve calls = some s') (returned : s'.Returned i) :
    ∃ o o' v u, calls = [(i, o), (i, o')] ∧ s.world.memory.workflow? id tenant = some v ∧
      f v = .ok u ∧ s'.world.shows tenant id = some (definition u) := by
  obtain ⟨o, rest, s₁, rfl, moved, served⟩ :=
    h.next done served (editing.not_returned h.first) returned
  obtain ⟨t₁, went, outcome⟩ := editing.go known o
  obtain ⟨s₂, moved', -, duo⟩ := h.go went
  cases moved.symm.trans moved'
  obtain failing | ⟨v, u, midway⟩ := outcome
  · exact absurd returned (State.not_returned_of_failing failing duo.first served)
  · obtain ⟨o', x, rfl, -, -, world⟩ := duo.last midway.toPending done served returned
    refine ⟨o, o', v, u, rfl, midway.found, midway.made, ?_⟩
    rw [world]
    exact shows_updated midway.named midway.owned s₁.world o'.time x

/-- Both of two edits have read: the last one to write has the last word. -/
theorem Duo.race (h : Duo s i j t t') (midway : Midway w tenant id f v u t)
    (midway' : Midway w tenant id g x u' t') (served : s.serve calls = some s')
    (returned : s'.Returned i) (returned' : s'.Returned j) :
    (∃ o o', calls = [(i, o), (j, o')] ∧ o'.outage = none ∧
        s'.world.shows tenant id = some (definition u')) ∨
      ∃ o o', calls = [(j, o), (i, o')] ∧ o'.outage = none ∧
        s'.world.shows tenant id = some (definition u) := by
  cases calls with
  | nil =>
      cases served
      exact absurd returned (midway.not_returned h.first)
  | cons c calls =>
      obtain ⟨k, o⟩ := c
      obtain ⟨s₁, moved, served⟩ := State.serve_cons.mp served
      obtain same | same := h.turn moved <;> subst same
      · obtain ⟨o', rfl, working, shown⟩ := h.overwritten midway.toPending midway'.toPending
          midway'.named midway'.owned moved served returned returned'
        exact .inl ⟨o, o', rfl, working, shown⟩
      · obtain ⟨o', rfl, working, shown⟩ := h.swap.overwritten midway'.toPending midway.toPending
          midway.named midway.owned moved served returned' returned
        exact .inr ⟨o, o', rfl, working, shown⟩

/-- The first of two tasks makes both its calls, and then the second. -/
def InTurn (i j : Nat) (calls : List (Nat × Chance)) : Prop :=
  i ≠ j ∧ ∃ o₁ o₂ o₃ o₄, calls = [(i, o₁), (i, o₂), (j, o₃), (j, o₄)]

/-- Both of two tasks read, and what is stored in the end is what one of them, which writes last,
makes alone. -/
def Overlap (s s' : State) (tenant id : String) (calls : List (Nat × Chance)) : Prop :=
  ∃ i j k l o₁ o₂ o₃ o₄, i ≠ j ∧ k ≠ l ∧ calls = [(i, o₁), (j, o₂), (k, o₃), (l, o₄)] ∧
    ∃ o s₁, s.serve [(l, o), (l, o₄)] = some s₁ ∧ s₁.Returned l ∧
      s'.world.shows tenant id = s₁.world.shows tenant id

theorem InTurn.not_overlap (h : InTurn i j calls) : ¬ Overlap s s' tenant id calls := by
  obtain ⟨-, _, _, _, _, rfl⟩ := h
  rintro ⟨_, _, _, _, _, _, _, _, apart, -, same, -⟩
  injection same with first rest
  injection rest with second
  exact apart ((Prod.mk.inj first).1.symm.trans (Prod.mk.inj second).1)

/-- What is stored is made by one edit of what the other made of what was stored. -/
def Successive (w w' : World) (tenant id : String) (f g : Workflow → Except Failure Workflow) :
    Prop :=
  ∃ v u v' u', w.memory.workflow? id tenant = some v ∧ f v = .ok u ∧
    definition v' = definition u ∧ g v' = .ok u' ∧ w'.shows tenant id = some (definition u')

/-- Two edits, of which the first has read: it writes before the other reads, or both have read and
the last one to write has the last word. -/
theorem Duo.settled (h : Duo s i j t t') (first : Editing tenant id f t)
    (second : Editing tenant id g t') (known : s.world.Named tenant id)
    (moved : s.move (.go i o) = some s₁) (served : s₁.serve calls = some s')
    (returned : s'.Returned i) (returned' : s'.Returned j) :
    InTurn i j ((i, o) :: calls) ∧ Successive s.world s'.world tenant id f g ∨
      Overlap s s' tenant id ((i, o) :: calls) := by
  obtain ⟨t₁, went, outcome⟩ := first.go known o
  obtain ⟨_, moved', world, duo⟩ := h.go went
  cases moved.symm.trans moved'
  obtain failing | ⟨v, u, midway⟩ := outcome
  · exact absurd returned (State.not_returned_of_failing failing duo.first served)
  cases calls with
  | nil =>
      cases served
      exact absurd returned (midway.not_returned duo.first)
  | cons c calls =>
      obtain ⟨k, o₂⟩ := c
      obtain ⟨s₂, moved₂, served⟩ := State.serve_cons.mp served
      obtain same | same := duo.turn moved₂ <;> subst same
      · -- The first one writes before the other reads.
        left
        obtain ⟨t₂, w₂, went₂, outcome⟩ := midway.writes.go midway.awake s₁.world o₂
        obtain ⟨_, moved₂', rfl, duo₂⟩ := duo.go went₂
        cases moved₂.symm.trans moved₂'
        obtain failing | ⟨-, ⟨a, finished⟩, x, -, written⟩ := outcome
        · exact absurd returned (State.not_returned_of_failing failing duo₂.first served)
        have stored := workflow?_updated midway.named midway.owned s₁.world o₂.time x
        rw [← written] at stored
        have known₂ : s₂.world.Named tenant id := by
          intro y found
          cases stored.symm.trans found
          exact midway.named
        obtain ⟨o₃, o₄, v', u', rfl, found, made, shown⟩ :=
          duo₂.swap.whole second known₂ finished served returned'
        refine ⟨⟨h.apart, o, o₂, o₃, o₄, rfl⟩,
          v, u, v', u', midway.found, midway.made, ?_, made, shown⟩
        cases stored.symm.trans found
        rfl
      · -- The other one reads as well, and finds the same.
        right
        obtain ⟨t₂, went₂, outcome⟩ := second.go known o₂
        obtain ⟨_, moved₂', -, duo₂⟩ := duo.swap.go (world ▸ went₂)
        cases moved₂.symm.trans moved₂'
        obtain failing | ⟨_, u', midway'⟩ := outcome
        · exact absurd returned' (State.not_returned_of_failing failing duo₂.first served)
        obtain ⟨o₃, o₄, rfl, working, shown⟩ | ⟨o₃, o₄, rfl, working, shown⟩ :=
          duo₂.race midway' midway served returned' returned
        · obtain ⟨s₄, alone, finished, shown'⟩ :=
            h.alone went midway.toPending midway.named midway.owned midway.found working
          exact ⟨i, k, k, i, o, o₂, o₃, o₄, h.apart, h.apart.symm, rfl, o, s₄, alone, finished,
            shown.trans shown'.symm⟩
        · obtain ⟨s₄, alone, finished, shown'⟩ :=
            h.swap.alone went₂ midway'.toPending midway'.named midway'.owned midway.found working
          exact ⟨i, k, i, k, o, o₂, o₃, o₄, h.apart, h.apart, rfl, o₂, s₄, alone, finished,
            shown.trans shown'.symm⟩

/-- Two edits in turn, in the order of their calls, or in an overlap. -/
theorem Duo.served (h : Duo s i j t t') (first : Editing tenant id f t)
    (second : Editing tenant id g t') (known : s.world.Named tenant id)
    (served : s.serve calls = some s') (returned : s'.Returned i) (returned' : s'.Returned j) :
    InTurn i j calls ∧ Successive s.world s'.world tenant id f g ∨
      InTurn j i calls ∧ Successive s.world s'.world tenant id g f ∨
      Overlap s s' tenant id calls := by
  cases calls with
  | nil =>
      cases served
      exact absurd returned (first.not_returned h.first)
  | cons c calls =>
      obtain ⟨k, o⟩ := c
      obtain ⟨s₁, moved, served⟩ := State.serve_cons.mp served
      obtain same | same := h.turn moved <;> subst same
      · exact (h.settled first second known moved served returned returned').imp_right .inr
      · exact .inr (h.swap.settled second first known moved served returned' returned)

end Two

section Edited

variable {a b : Operation} {calls : List (Nat × Chance)}

def asked (w : World) (a b : Operation) : State :=
  ⟨w, [], [.start (.operation a), .start (.operation b)]⟩

theorem duo_asked (w : World) (a b : Operation) :
    Duo (asked w a b) 0 1 (.start (.operation a)) (.start (.operation b)) := by
  refine ⟨by decide, rfl, rfl, fun k task found => ?_⟩
  match k with
  | 0 => exact .inl rfl
  | 1 => exact .inr rfl
  | k + 2 => cases found

/-- Two edits of a stored definition that both return have been made one after the other, the second
of what the first made, in the order in which they made their calls, unless both read before one of
them wrote: then what is stored is what the one that wrote last makes alone. -/
theorem edited_in_turn_or_last (first : Edits tenant id a f) (second : Edits tenant id b g)
    (known : w.Named tenant id) (served : (asked w a b).serve calls = some s)
    (returned : s.Returned 0) (returned' : s.Returned 1) :
    InTurn 0 1 calls ∧ Successive w s.world tenant id f g ∨
      InTurn 1 0 calls ∧ Successive w s.world tenant id g f ∨
      Overlap (asked w a b) s tenant id calls :=
  (duo_asked w a b).served first.editing second.editing known served returned returned'

def Task.succeeded (t : Task) : Bool :=
  match t.rest with
  | .done (.ok _) => true
  | _ => false

theorem State.returned_of_succeeded {i : Nat} (h : (s.tasks[i]?).map Task.succeeded = some true) :
    s.Returned i := by
  obtain ⟨t, there, succeeded⟩ := Option.map_eq_some_iff.mp h
  unfold Task.succeeded at succeeded
  split at succeeded
  · next a done => exact ⟨t, a, there, done⟩
  · cases succeeded

def editedWorld : World := ⟨⟨[("sample", sample)], []⟩, .empty, []⟩

/-- The sample is given a new name, and is deactivated. -/
def renamedAndToggled : State :=
  asked editedWorld (.updateWorkflow "tenant" "sample" (renameTo "Renamed"))
    (.toggleStatus "tenant" "sample")

theorem named_editedWorld : editedWorld.Named "tenant" "sample" := by
  intro v found
  cases found
  rfl

/-- Both read, the new name is written, and then the status with the old name. -/
def overlapping : List (Nat × Chance) :=
  [0, 1, 0, 1].map fun i => (i, .calm (.utc 0) "")

def stored? (s : State) : Option (String × WorkflowStatus) :=
  (s.world.shows "tenant" "sample").map fun d => (d.1.name, d.2)

theorem serve_overlapping : ∃ s, renamedAndToggled.serve overlapping = some s ∧ s.Returned 0 ∧
    s.Returned 1 ∧ stored? s = some ("Sample", .inactive) := by
  obtain ⟨s, served, shown⟩ := Option.map_eq_some_iff.mp
    (show (renamedAndToggled.serve overlapping).map (fun s =>
      ((s.tasks[0]?).map Task.succeeded, (s.tasks[1]?).map Task.succeeded, stored? s)) =
        some (some true, some true, some ("Sample", .inactive)) by decide +kernel)
  obtain ⟨first, rest⟩ := Prod.mk.inj shown
  obtain ⟨second, stored⟩ := Prod.mk.inj rest
  exact ⟨s, served, State.returned_of_succeeded first, State.returned_of_succeeded second, stored⟩

theorem sample_edited : ∃ s,
    Edits "tenant" "sample" (.updateWorkflow "tenant" "sample" (renameTo "Renamed"))
      (fun v => do let u ← changed (renameTo "Renamed") v; u.checkIfActive; return u) ∧
    Edits "tenant" "sample" (.toggleStatus "tenant" "sample") Workflow.toggled ∧
    editedWorld.Named "tenant" "sample" ∧ renamedAndToggled.serve overlapping = some s ∧
    s.Returned 0 ∧ s.Returned 1 ∧
    (InTurn 0 1 overlapping ∧ Successive editedWorld s.world "tenant" "sample"
        (fun v => do let u ← changed (renameTo "Renamed") v; u.checkIfActive; return u)
        Workflow.toggled ∨
      InTurn 1 0 overlapping ∧ Successive editedWorld s.world "tenant" "sample" Workflow.toggled
        (fun v => do let u ← changed (renameTo "Renamed") v; u.checkIfActive; return u) ∨
      Overlap renamedAndToggled s "tenant" "sample" overlapping) := by
  obtain ⟨s, served, returned, returned', -⟩ := serve_overlapping
  exact ⟨s, .update _, .toggle, named_editedWorld, served, returned, returned',
    edited_in_turn_or_last (.update _) .toggle named_editedWorld served returned returned'⟩

theorem name_renamed {name : String}
    (h : (do let u ← changed (renameTo name) v; u.checkIfActive; return u) = .ok u) :
    u.name = name :=
  (Workflow.reread_of_read (Reading.toExcept_eq_ok.mp (changed_of_checked h).1)).name

theorem name_toggled (h : v.toggled = .ok u) : u.name = v.name := by
  obtain rfl | ⟨-, rfl⟩ := Workflow.toggled_eq_ok h <;> rfl

/-- A new name is lost if the definition is toggled by someone who has read the old one. -/
theorem rename_lost : ∃ s, renamedAndToggled.serve overlapping = some s ∧ s.Returned 0 ∧
    s.Returned 1 ∧ ∀ i j calls s', InTurn i j calls → renamedAndToggled.serve calls = some s' →
      s'.Returned 0 → s'.Returned 1 →
        s.world.shows "tenant" "sample" ≠ s'.world.shows "tenant" "sample" := by
  obtain ⟨s, served, returned, returned', stored⟩ := serve_overlapping
  refine ⟨s, served, returned, returned', fun i j calls s' turns served' first second same => ?_⟩
  have renamed : ∃ d, s'.world.shows "tenant" "sample" = some d ∧ d.1.name = "Renamed" := by
    obtain ⟨-, _, u, v', u', -, made, passed, made', shown⟩ |
        ⟨-, _, _, _, u', -, -, -, made, shown⟩ | overlap :=
      (duo_asked _ _ _).served (Edits.update _).editing Edits.toggle.editing named_editedWorld
        served' first second
    · refine ⟨_, shown, ?_⟩
      have passed : v'.name = u.name := congrArg (·.1.name) passed
      exact (name_toggled made').trans (passed.trans (name_renamed made))
    · exact ⟨_, shown, name_renamed made⟩
    · exact absurd overlap turns.not_overlap
  obtain ⟨d, shown, name⟩ := renamed
  rw [stored?, same, shown] at stored
  have lost : d.1.name = "Sample" := congrArg Prod.fst (Option.some.inj stored)
  exact absurd (name.symm.trans lost) (by decide)

end Edited

end TriggerFlow.Server
