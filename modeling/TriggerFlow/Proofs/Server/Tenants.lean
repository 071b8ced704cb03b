import TriggerFlow.Proofs.Reliance
import TriggerFlow.Proofs.Server.Conduct
import TriggerFlow.Proofs.Store.Shares
import TriggerFlow.Proofs.Workflow.Fitness

/-!
Whose a task is. An operation is made for a tenant, and all its calls are; a run belongs to the
tenant of its record. What a task does depends on its ticket only in that it shows the ticket again:
two programs are alike if they make the same calls, each with the ticket that it was given.
-/

namespace TriggerFlow.Server

open Engine Program Service

variable {α β : Type} {tenant id : String} {w : Workflow} {e l : Execution} {k k' : Ticket}

/-- The tenant that asks for an operation. Closing the service is nobody's. -/
def Operation.tenant? : Operation → Option String
  | createWorkflow tenant _ _ | getWorkflow tenant _ | listWorkflows tenant _ _ => some tenant
  | updateWorkflow tenant _ _ | deleteWorkflow tenant _ | toggleStatus tenant _ => some tenant
  | duplicateWorkflow tenant _ _ | exportWorkflow tenant _ | importWorkflow tenant _ _ =>
    some tenant
  | execute tenant _ _ | listExecutions _ tenant _ _ | getExecution tenant _ => some tenant
  | cancelExecution tenant _ => some tenant
  | close => none

def Job.tenant? : Job → Option String
  | .operation o => o.tenant?
  | .run _ e => some e.tenant

/-- A call that shows no ticket, made for a tenant or for nobody. -/
def Plain (owner : Option String) : Call → Prop
  | .store c => ∃ tenant, owner = some tenant ∧ c.IsOf tenant
  | .startInBackground _ e => owner = some e.tenant
  | .awaitBackground => owner = none
  | .register _ | .attach _ | .release _ _ | .isCancelled _ => False
  | .latest _ | .isRunning _ => False
  | _ => owner.isSome = true

/-- What is found is the tenant's. -/
def Got (owner : Option String) : Exchange → Prop
  | ⟨.store (.getWorkflow _ _), .ok (some w)⟩ => owner = some w.tenant
  | _ => True

/-- Programs of one tenant that make the same calls and come to the same end, as long as they are
answered alike; what they hold is the ticket of one and the other. -/
inductive Alike (owner : Option String) (post : Option (Ticket × Ticket) → α → Prop) :
    Option (Ticket × Ticket) → Work α → Work α → Prop
  | done {held : Option (Ticket × Ticket)} {a : α} (h : post held a) :
      Alike owner post held (.done a) (.done a)
  | plain {held : Option (Ticket × Ticket)} {c : Call} {next next' : Reply c → Work α}
      (mine : Plain owner c)
      (rest : ∀ r, Got owner ⟨c, r⟩ → Alike owner post held (next r) (next' r)) :
      Alike owner post held (.call c next) (.call c next')
  | register {held : Option (Ticket × Ticket)} {id : String}
      {next next' : Reply (.register id) → Work α}
      (rest : ∀ k k' : Ticket, Alike owner post held (next k) (next' k')) :
      Alike owner post held (.call (.register id) next) (.call (.register id) next')
  | attach {held : Option (Ticket × Ticket)} {id : String}
      {next next' : Reply (.attach id) → Work α}
      (rest : ∀ k k' : Ticket, Alike owner post (some (k, k')) (next k) (next' k')) :
      Alike owner post held (.call (.attach id) next) (.call (.attach id) next')
  | isCancelled {k k' : Ticket} {next : Reply (.isCancelled k) → Work α}
      {next' : Reply (.isCancelled k') → Work α}
      (rest : ∀ b : Bool, Alike owner post (some (k, k')) (next b) (next' b)) :
      Alike owner post (some (k, k')) (.call (.isCancelled k) next) (.call (.isCancelled k') next')
  | release {k k' : Ticket} {id : String} {next : Reply (.release id k) → Work α}
      {next' : Reply (.release id k') → Work α}
      (rest : Alike owner post none (next ()) (next' ())) :
      Alike owner post (some (k, k')) (.call (.release id k) next) (.call (.release id k') next')

section Rules

variable {owner : Option String} {held : Option (Ticket × Ticket)} {p p' : Work α}
  {mid post : Option (Ticket × Ticket) → α → Prop}

theorem Alike.bind {post : Option (Ticket × Ticket) → β → Prop} {f f' : α → Work β}
    (h : Alike owner mid held p p')
    (rest : ∀ held a, mid held a → Alike owner post held (f a) (f' a)) :
    Alike owner post held (p >>= f) (p' >>= f') := by
  induction h with
  | done h => exact rest _ _ h
  | plain mine _ ih => exact .plain mine fun r got => ih r got
  | register _ ih => exact .register fun k k' => ih k k'
  | attach _ ih => exact .attach fun k k' => ih k k'
  | isCancelled _ ih => exact .isCancelled fun b => ih b
  | release _ ih => exact .release ih

theorem Alike.imp (h : Alike owner mid held p p') (imp : ∀ held a, mid held a → post held a) :
    Alike owner post held p p' := by
  induction h with
  | done h => exact .done (imp _ _ h)
  | plain mine _ ih => exact .plain mine ih
  | register _ ih => exact .register ih
  | attach _ ih => exact .attach ih
  | isCancelled _ ih => exact .isCancelled ih
  | release _ ih => exact .release ih

/-- A program that shows no ticket is like itself, whatever is held meanwhile. -/
theorem alike_of_keeps {post : α → Prop} (h : p.Keeps (Plain owner) (Got owner) post) :
    Alike owner (fun now a => now = held ∧ post a) held p p := by
  induction p with
  | done a => exact .done ⟨rfl, h⟩
  | call c next ih => exact .plain h.1 fun r got => ih r (h.2 r got)

/-- First a program that shows no ticket, and then programs that are alike. -/
theorem alike_after {mid : α → Prop} {post : Option (Ticket × Ticket) → β → Prop}
    {f f' : α → Work β} (h : p.Keeps (Plain owner) (Got owner) mid)
    (rest : ∀ a, mid a → Alike owner post held (f a) (f' a)) :
    Alike owner post held (p >>= f) (p >>= f') :=
  (alike_of_keeps h).bind fun _ a ⟨same, mid⟩ => same ▸ rest a mid

theorem alike_register {post : Option (Ticket × Ticket) → α → Prop} {f f' : Ticket → Work α}
    (rest : ∀ k k', Alike owner post held (f k) (f' k')) :
    Alike owner post held (register id >>= f) (register id >>= f') :=
  .register rest

theorem alike_attach {post : Option (Ticket × Ticket) → α → Prop} {f f' : Ticket → Work α}
    (rest : ∀ k k', Alike owner post (some (k, k')) (f k) (f' k')) :
    Alike owner post held (attach id >>= f) (attach id >>= f') :=
  .attach rest

theorem alike_isCancelled {post : Option (Ticket × Ticket) → α → Prop} {f f' : Bool → Work α}
    (rest : ∀ b, Alike owner post (some (k, k')) (f b) (f' b)) :
    Alike owner post (some (k, k')) (isCancelled k >>= f) (isCancelled k' >>= f') :=
  .isCancelled rest

theorem alike_release {post : Option (Ticket × Ticket) → α → Prop} {f f' : Unit → Work α}
    (rest : Alike owner post none (f ()) (f' ())) :
    Alike owner post (some (k, k')) (release id k >>= f) (release id k' >>= f') :=
  .release rest

end Rules

section Runs

/-- A program of a tenant that shows no ticket. -/
abbrev Mine (tenant : String) (post : α → Prop) (p : Work α) : Prop :=
  p.Keeps (Plain (some tenant)) (Got (some tenant)) post

theorem mine_guarded {action : String} {workflow : Option String} {c : Store.Call}
    (mine : c.IsOf tenant) : Mine tenant (fun _ => True) (guarded action workflow c) :=
  (keeps_guarded ⟨tenant, rfl, mine⟩).imp fun _ _ => trivial

theorem mine_getWorkflow (tenant id : String) :
    Mine tenant (fun r => ∀ w, r = .ok w → w.tenant = tenant) (getWorkflow tenant id) :=
  (keeps_getWorkflow ⟨tenant, rfl, rfl⟩).imp fun _ got w same => (Option.some.inj (got w same)).symm

theorem mine_ask {c : Call} (mine : Plain (some tenant) c) :
    Mine tenant (fun _ => True) (Program.ask c) :=
  keeps_ask mine fun _ _ => trivial

theorem mine_save (mine : e.tenant = tenant) : Mine tenant (fun _ => True) (save e) := by
  refine keeps_bind (mine_ask (by exact ⟨tenant, rfl, mine⟩)) fun r _ => ?_
  cases r <;> exact keeps_pure trivial

theorem mine_notify (execution event : String) (data : Fields) :
    Mine tenant (fun _ => True) (notify execution event data) :=
  ⟨rfl, fun _ _ => trivial⟩

theorem mine_now : Mine tenant (fun _ => True) now := mine_ask (by exact rfl)

theorem mine_freshId : Mine tenant (fun _ => True) freshId := mine_ask (by exact rfl)

theorem mine_alone (mine : e.tenant = tenant) :
    Mine tenant (fun l => l.tenant = tenant) (alone e) :=
  keeps_pure mine

theorem mine_stepId : Mine tenant (fun _ => True) stepId :=
  keeps_bind mine_freshId fun _ _ => keeps_pure trivial

theorem mine_perform (n : Node) (context : Fields) :
    Mine tenant (fun _ => True) (perform n context) := by
  unfold perform
  split
  · exact keeps_pure trivial
  · refine keeps_bind (mine_ask (by exact rfl)) fun r _ => ?_
    cases r <;> exact keeps_pure trivial

/-- A visit leaves a record of the tenant. -/
theorem mine_visit (w : Workflow) (n : Node) (context : Fields) (mine : e.tenant = tenant) :
    Mine tenant (fun r => match r with
      | .error (l, _) => l.tenant = tenant
      | .ok (l, _) => l.tenant = tenant) (visit w alone e n context) := by
  refine keeps_bind mine_stepId fun id _ => ?_
  refine keeps_bind mine_now fun start _ => ?_
  refine keeps_bind (mine_save (by exact mine)) fun r _ => ?_
  cases r with
  | error f => exact keeps_pure mine
  | ok _ =>
      refine keeps_bind (mine_notify _ _ _) fun _ _ => ?_
      refine keeps_bind (mine_perform n context) fun r _ => ?_
      -- a failure and a success are stored alike
      cases r
      all_goals
        refine keeps_bind mine_now fun finish _ => ?_
        refine keeps_bind (mine_alone mine) fun l mine => ?_
        refine keeps_bind (mine_save (by exact mine)) fun r _ => ?_
        cases r with
        | error g => exact keeps_pure mine
        | ok _ => exact keeps_bind (mine_notify _ _ _) fun _ _ => keeps_pure mine

theorem mine_skip (w : Workflow) (c : Connection) (mine : e.tenant = tenant) :
    Mine tenant (fun s => s.1.tenant = tenant) (skip w alone e c) := by
  refine keeps_bind mine_now fun time _ => ?_
  refine keeps_bind mine_stepId fun id _ => ?_
  refine keeps_bind (mine_save (by exact mine)) fun r _ => ?_
  cases r with
  | error f => exact keeps_pure mine
  | ok _ => exact keeps_bind (mine_notify _ _ _) fun _ _ => keeps_pure mine

theorem tenant_advancedTo (mine : e.tenant = tenant) (later : l.tenant = tenant) :
    (e.advancedTo l).tenant = tenant := by
  unfold Execution.advancedTo
  split
  · exact later
  · exact mine

/-- What is left where a walk has come to its end. -/
def Walked (tenant : String) (k k' : Ticket) (held : Option (Ticket × Ticket))
    (s : Execution × Option Stop) : Prop :=
  held = some (k, k') ∧ s.1.tenant = tenant

theorem alike_walk (w : Workflow) (frames : List Frame) (mine : e.tenant = tenant) :
    Alike (some tenant) (Walked tenant k k') (some (k, k')) (walk w alone k e frames)
      (walk w alone k' e frames) := by
  -- by the recursion of the walk, with a hypothesis for every turn after which it goes on
  induction e, frames using walk.induct w with
  | case1 e =>
      rw [walk, walk]
      exact .done ⟨rfl, mine⟩
  | case2 e frame below left skipped passed entered =>
      rw [walk, walk]
      refine alike_isCancelled fun requested => ?_
      cases requested with
      | true => exact .done ⟨rfl, mine⟩
      | false =>
          obtain ⟨n, x, y, remaining⟩ := frame
          cases remaining with
          | nil => exact left mine
          | cons c rest =>
              dsimp only
              rw [if_neg Bool.false_ne_true, if_neg Bool.false_ne_true]
              obtain f | holds := Condition.hold c.conditions c.logic (.obj x)
              · exact .done ⟨rfl, mine⟩
              cases holds with
              | false =>
                  refine alike_after (mine_skip w c mine) fun s later => ?_
                  obtain ⟨l, f | _⟩ := s
                  · exact .done ⟨rfl, later⟩
                  · exact skipped c rest rfl l (tenant_advancedTo mine later)
              | true =>
                  dsimp only
                  split
                  · exact .done ⟨rfl, mine⟩
                  next m target =>
                  split
                  · exact .done ⟨rfl, mine⟩
                  split
                  · exact passed c rest rfl mine
                  next fresh =>
                  refine alike_after (mine_visit w m _ mine) fun s later => ?_
                  obtain ⟨l, stop⟩ | ⟨l, v⟩ := s
                  · exact .done ⟨rfl, later⟩
                  · exact entered c rest rfl m target fresh l v
                      (tenant_advancedTo (by exact mine) later)

theorem alike_traverse (w : Workflow) (mine : e.tenant = tenant) :
    Alike (some tenant) (Walked tenant k k') (some (k, k')) (Engine.traverse w alone k e)
      (Engine.traverse w alone k' e) := by
  unfold Engine.traverse
  split
  · exact .done ⟨rfl, mine⟩
  next n _ _ =>
  split
  · exact .done ⟨rfl, mine⟩
  refine alike_after (mine_visit w n _ mine) fun s later => ?_
  obtain ⟨l, stop⟩ | ⟨l, v⟩ := s
  · exact .done ⟨rfl, later⟩
  · exact alike_walk w _ later

theorem tenant_concluded {stop : Option Stop} {ended : Execution} (mine : e.tenant = tenant)
    (h : concluded e stop = .ok ended) : ended.tenant = tenant := by
  unfold concluded at h
  split at h
  · cases h
  all_goals
    cases h
    exact mine

theorem mine_close {finish : Moment} (owned : w.tenant = tenant) (mine : e.tenant = tenant) :
    Mine tenant (fun _ => True) (Engine.close w alone e finish) := by
  refine keeps_bind (mine_save mine) fun r _ => ?_
  cases r with
  | error f => exact keeps_pure trivial
  | ok _ =>
      refine keeps_bind (mine_alone mine) fun l _ => ?_
      split
      · refine keeps_bind (mine_ask (by exact ⟨tenant, rfl, owned⟩)) fun r _ => ?_
        cases r <;> exact keeps_pure trivial
      · exact keeps_pure trivial

/-- A run gives its ticket back at its end. -/
theorem alike_run {held : Option (Ticket × Ticket)} (owned : w.tenant = tenant)
    (mine : e.tenant = tenant) :
    Alike (some tenant) (fun held _ => held = none) held (run w alone e) (run w alone e) := by
  refine alike_attach fun k k' => ?_
  refine alike_after (mine_alone mine) fun l mine => ?_
  refine (alike_traverse w mine).bind fun held s walked => ?_
  obtain ⟨l, stop⟩ := s
  obtain ⟨rfl, mine⟩ := walked
  dsimp only
  split
  · exact alike_release (.done rfl)
  next ended taken =>
  have mine : ended.tenant = tenant := tenant_concluded mine taken
  refine alike_after mine_now fun finish _ => ?_
  refine alike_after (mine_close owned (by exact mine)) fun r _ => ?_
  cases r with
  | error f => exact alike_release (.done rfl)
  | ok d => exact alike_release (alike_after (mine_notify _ _ _) fun _ _ => .done rfl)

theorem alike_prepare {held : Option (Ticket × Ticket)} (data : Value)
    (owned : w.tenant = tenant) :
    Alike (some tenant) (fun now r => now = held ∧ ∀ e, r = .ok e → e.tenant = tenant) held
      (prepare w data) (prepare w data) := by
  unfold prepare
  split
  · exact .done ⟨rfl, fun _ same => by cases same⟩
  split
  · exact .done ⟨rfl, fun _ same => by cases same⟩
  refine alike_after mine_freshId fun fresh _ => ?_
  split
  · exact .done ⟨rfl, fun _ same => by cases same⟩
  refine alike_after mine_now fun start _ => ?_
  split
  · exact .done ⟨rfl, fun _ same => by cases same⟩
  next e new =>
  have mine : e.tenant = tenant := by
    obtain ⟨workflow, -, rfl⟩ := newExecution_eq_ok new
    exact owned
  refine alike_after (mine_save mine) fun r _ => ?_
  cases r with
  | error f => exact .done ⟨rfl, fun _ same => by cases same⟩
  | ok _ =>
      refine alike_register fun _ _ => alike_after (mine_notify _ _ _) fun _ _ => ?_
      refine .done ⟨rfl, fun l same => ?_⟩
      cases same
      exact mine

end Runs

section Operations

theorem mine_createWorkflow (tenant : String) (d : Draft) (creator : Option String) :
    Mine tenant (fun _ => True) (createWorkflow tenant d creator) := by
  unfold createWorkflow
  dsimp only
  split
  · exact keeps_pure trivial
  · refine keeps_bind (mine_guarded (by exact rfl)) fun r _ => ?_
    cases r with
    | ok v => exact keeps_pure trivial
    | error f => cases f <;> exact keeps_pure trivial

theorem mine_importWorkflow (tenant : String) (p : Portable) (creator : Option String) :
    Mine tenant (fun _ => True) (importWorkflow tenant p creator) := by
  unfold importWorkflow
  split
  · exact keeps_pure trivial
  · exact mine_createWorkflow tenant _ creator

theorem mine_updateWorkflow (tenant id : String) (c : Changes) :
    Mine tenant (fun _ => True) (updateWorkflow tenant id c) := by
  refine keeps_bind (mine_getWorkflow tenant id) fun r found => ?_
  match r with
  | .error f => exact keeps_pure trivial
  | .ok current =>
      dsimp only
      split
      · exact keeps_pure trivial
      · next made =>
        have reread :=
          Workflow.reread_of_read (Reading.toExcept_eq_ok.mp (changed_of_checked made).1)
        exact mine_guarded (reread.tenant.trans (found current rfl))

theorem mine_toggleStatus (tenant id : String) :
    Mine tenant (fun _ => True) (toggleStatus tenant id) := by
  refine keeps_bind (mine_getWorkflow tenant id) fun r found => ?_
  match r with
  | .error f => exact keeps_pure trivial
  | .ok current =>
      dsimp only
      split
      · exact keeps_pure trivial
      · next toggled =>
        obtain rfl | ⟨-, rfl⟩ := Workflow.toggled_eq_ok toggled <;>
          exact mine_guarded (by exact found current rfl)

theorem mine_duplicateWorkflow (tenant id : String) (creator : Option String) :
    Mine tenant (fun _ => True) (duplicateWorkflow tenant id creator) := by
  refine keeps_bind (mine_getWorkflow tenant id) fun r found => ?_
  match r with
  | .error f => exact keeps_pure trivial
  | .ok current =>
      refine keeps_bind mine_freshId fun fresh _ => ?_
      exact mine_guarded (by exact found current rfl)

theorem mine_deleteWorkflow (tenant id : String) :
    Mine tenant (fun _ => True) (deleteWorkflow tenant id) := by
  refine keeps_bind (mine_guarded (by exact rfl)) fun r _ => ?_
  match r with
  | .ok true | .ok false => exact keeps_pure trivial
  | .error f => cases f <;> exact keeps_pure trivial

theorem mine_listExecutions (s : Settings) (tenant workflow : String) (limit : Option Int) :
    Mine tenant (fun _ => True) (listExecutions s tenant workflow limit) := by
  refine keeps_bind (mine_getWorkflow tenant workflow) fun r _ => ?_
  match r with
  | .error f => exact keeps_pure trivial
  | .ok _ => exact mine_guarded (by exact rfl)

theorem mine_getExecution (tenant id : String) :
    Mine tenant (fun _ => True) (getExecution tenant id) := by
  refine keeps_bind (mine_guarded (by exact rfl)) fun r _ => ?_
  match r with
  | .error f | .ok none | .ok (some e) => exact keeps_pure trivial

theorem mine_cancelExecution (tenant id : String) :
    Mine tenant (fun _ => True) (cancelExecution tenant id) := by
  refine keeps_bind (mine_getExecution tenant id) fun r _ => ?_
  match r with
  | .error f => exact keeps_pure trivial
  | .ok e =>
      dsimp only
      split
      · exact keeps_pure trivial
      refine keeps_bind (mine_ask (by exact rfl)) fun asked _ => ?_
      split
      · refine keeps_bind (mine_ask (by exact rfl)) fun _ _ => ?_
        refine keeps_bind (mine_getExecution tenant id) fun r _ => ?_
        match r with
        | .error f => exact keeps_pure trivial
        | .ok finished =>
            dsimp only
            split <;> exact keeps_pure trivial
      · refine keeps_bind mine_now fun finish _ => ?_
        refine keeps_bind (mine_guarded (by exact rfl)) fun r _ => ?_
        match r with
        | .error f | .ok none | .ok (some d) => exact keeps_pure trivial

theorem alike_execute (tenant id : String) (request : RunRequest) :
    Alike (some tenant) (fun _ _ => True) none (Service.execute tenant id request)
      (Service.execute tenant id request) := by
  refine alike_after (mine_getWorkflow tenant id) fun r found => ?_
  match r with
  | .error f => exact .done trivial
  | .ok w =>
      have owned := found w rfl
      dsimp only
      split
      · refine (alike_prepare request.triggerData owned).bind fun held r prepared => ?_
        match r with
        | .error f => exact .done trivial
        | .ok e =>
            refine alike_after (mine_ask (by exact congrArg some (prepared.2 e rfl).symm)) ?_
            exact fun _ _ => .done trivial
      · refine (alike_prepare request.triggerData owned).bind fun held r prepared => ?_
        match r with
        | .error f => exact .done trivial
        | .ok e => exact (alike_run owned (prepared.2 e rfl)).imp fun _ _ _ => trivial

theorem alike_mine {p : Work α} (h : Mine tenant (fun _ => True) p) :
    Alike (some tenant) (fun _ _ => True) none p p :=
  (alike_of_keeps h).imp fun _ _ _ => trivial

theorem alike_operation (o : Operation) :
    Alike o.tenant? (fun _ _ => True) none o.work o.work := by
  cases o with
  | createWorkflow tenant d creator => exact alike_mine (mine_createWorkflow tenant d creator)
  | getWorkflow tenant id => exact alike_mine ((mine_getWorkflow tenant id).imp fun _ _ => trivial)
  | listWorkflows => exact alike_mine (mine_guarded (by exact rfl))
  | updateWorkflow tenant id c => exact alike_mine (mine_updateWorkflow tenant id c)
  | deleteWorkflow tenant id => exact alike_mine (mine_deleteWorkflow tenant id)
  | toggleStatus tenant id => exact alike_mine (mine_toggleStatus tenant id)
  | duplicateWorkflow tenant id creator =>
      exact alike_mine (mine_duplicateWorkflow tenant id creator)
  | exportWorkflow tenant id =>
      exact alike_mine (keeps_bind (mine_getWorkflow tenant id) fun _ _ => keeps_pure trivial)
  | importWorkflow tenant p creator => exact alike_mine (mine_importWorkflow tenant p creator)
  | execute tenant id request => exact alike_execute tenant id request
  | listExecutions s tenant workflow limit =>
      exact alike_mine (mine_listExecutions s tenant workflow limit)
  | getExecution tenant id => exact alike_mine (mine_getExecution tenant id)
  | cancelExecution tenant id => exact alike_mine (mine_cancelExecution tenant id)
  | close => exact .plain rfl fun _ _ => .done trivial

/-- Every job makes its calls for its tenant, and its ticket does not matter. -/
theorem alike_work (j : Job) (fit : j.Fit) :
    Alike j.tenant? (fun _ _ => True) none j.work j.work := by
  cases j with
  | operation o => exact alike_operation o
  | run w e =>
      refine (alike_run fit.tenant.symm rfl).bind fun held r back => ?_
      subst back
      exact alike_after (mine_ask (by exact rfl)) fun _ _ => .done trivial

end Operations

end TriggerFlow.Server
