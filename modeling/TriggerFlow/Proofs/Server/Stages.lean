import TriggerFlow.Proofs.Reliance
import TriggerFlow.Proofs.Server.Containment
import TriggerFlow.Proofs.Server.Moves

/-!
How far a task has come with the run of a record, told by its calls alone. The store may refuse any
of them: a refused first save begins nothing, and a save or count that is refused later is the end
of the run, as a stored end is. In every stage only a few calls can come next; from the first save
on the registry is entered with the next call, and from the end on it is left with the next call.
-/

namespace TriggerFlow.Server

open Engine Program Service

variable {α β : Type} {w : Workflow} {e d : Execution} {id tenant : String} {k : Ticket}
  {t u : List Exchange} {x : Exchange}

inductive Stage where
  | idle
  | drew (id : String)
  /-- The first save was refused. -/
  | denied (id : String)
  | begun (id : String)
  | entered (id : String)
  | handed (id : String)
  /-- A task of its own is to go on with the registered run. -/
  | taken (id : String)
  /-- The run goes on under its ticket, with this exchange so far. -/
  | running (id : String) (k : Ticket) (t : List Exchange)
  /-- A completion is stored that is to be counted. -/
  | counting (id : String) (k : Ticket)
  /-- The end is stored and counted, or the store refused a call. -/
  | ending (id : String) (k : Ticket)
  | left (id : String)
  /-- The task of a background run is over. -/
  | gone (id : String)

namespace Stage

def after (p : Stage) (x : Exchange) : Stage :=
  match p with
  | idle | drew _ => match x with
    | ⟨.freshId, id⟩ => drew id
    | ⟨.store (.saveExecution e), .ok _⟩ => begun e.id
    | ⟨.store (.saveExecution e), .error _⟩ => denied e.id
    | _ => p
  | begun id => match x with
    | ⟨.register _, _⟩ => entered id
    | _ => p
  | entered id => match x with
    | ⟨.startInBackground _ _, _⟩ => handed id
    | ⟨.attach _, k⟩ => running id k [x]
    | _ => p
  | taken id => match x with
    | ⟨.attach _, k⟩ => running id k [x]
    | _ => p
  | running id k t => match x with
    | ⟨.store (.saveExecution d), .ok _⟩ =>
      if d.isFinished then if d.status = .completed then counting id k else ending id k
      else running id k (t ++ [x])
    | ⟨.store (.saveExecution _), .error _⟩ => ending id k
    | ⟨.release _ _, _⟩ => left id
    | _ => running id k (t ++ [x])
  | counting id k => match x with
    | ⟨.store (.incrementRunCount _ _ _), _⟩ => ending id k
    | _ => p
  | ending id _ => match x with
    | ⟨.release _ _, _⟩ => left id
    | _ => p
  | left id => match x with
    | ⟨.leaveBackground _, _⟩ => gone id
    | _ => p
  | p => p

inductive Early : Stage → Prop
  | idle : Early idle
  | drew (id : String) : Early (drew id)

inductive Free : Stage → Prop
  | early {p : Stage} (early : p.Early) : Free p
  | entered (id : String) : Free (entered id)
  | running (id : String) (k : Ticket) (t : List Exchange) : Free (running id k t)
  | left (id : String) : Free (left id)

inductive Settled : Stage → Prop
  | early {p : Stage} (early : p.Early) : Settled p
  | denied (id : String) : Settled (denied id)
  | handed (id : String) : Settled (handed id)
  | left (id : String) : Settled (left id)

end Stage

/-- A call that has nothing to do with the record of a run or its place among the live runs. -/
def Unrelated : Call → Prop
  | .store (.saveExecution _) | .store (.incrementRunCount _ _ _) => False
  | .register _ | .attach _ | .release _ _ => False
  | .startInBackground _ _ | .leaveBackground _ => False
  | _ => True

/-- The calls that can come next. -/
inductive Allows : Stage → Call → Prop
  | aside {p : Stage} (free : p.Free) {c : Call} (unrelated : Unrelated c) : Allows p c
  | begin {e : Execution} (unfinished : e.isFinished = false) :
      Allows (.drew e.id) (.store (.saveExecution e))
  | register (id : String) : Allows (.begun id) (.register id)
  | hand {w : Workflow} {e : Execution} (launched : Launched w e) :
      Allows (.entered e.id) (.startInBackground w e)
  | attach (id : String) : Allows (.entered id) (.attach id)
  | resume (id : String) : Allows (.taken id) (.attach id)
  | save (d : Execution) (k : Ticket) (t : List Exchange) :
      Allows (.running d.id k t) (.store (.saveExecution d))
  | abort {w : Workflow} {e : Execution} {k : Ticket} {t : List Exchange}
      (raised : Raised w e (t ++ [⟨.release e.id k, ()⟩])) :
      Allows (.running e.id k t) (.release e.id k)
  | count (id : String) (k : Ticket) (workflow : Option String) (tenant : String)
      (finish : Moment) :
      Allows (.counting id k) (.store (.incrementRunCount workflow tenant finish))
  | release (id : String) (k : Ticket) : Allows (.ending id k) (.release id k)
  | leave (id : String) : Allows (.left id) (.leaveBackground id)

/-- What a run comes to when its record is saved. -/
inductive SavesTo (d : Execution) (k : Ticket) (t : List Exchange) :
    Except Failure Unit → Stage → Prop
  | refused (f : Failure) : SavesTo d k t (.error f) (.ending d.id k)
  | completed (finished : d.isFinished = true) (completed : d.status = .completed) :
      SavesTo d k t (.ok ()) (.counting d.id k)
  | closed (finished : d.isFinished = true) (incomplete : d.status ≠ .completed) :
      SavesTo d k t (.ok ()) (.ending d.id k)
  | saved (unfinished : d.isFinished = false) :
      SavesTo d k t (.ok ()) (.running d.id k (t ++ [saving d (.ok ())]))

theorem after_save (d : Execution) (k : Ticket) (t : List Exchange) (r : Except Failure Unit) :
    SavesTo d k t r ((Stage.running d.id k t).after ⟨.store (.saveExecution d), r⟩) := by
  cases r with
  | error f => exact .refused f
  | ok _ =>
      show SavesTo d k t _ (if _ then if _ then _ else _ else _)
      split
      · next finished =>
        split
        · next completed => exact .completed finished completed
        · next incomplete => exact .closed finished incomplete
      · next unfinished => exact .saved (Bool.eq_false_iff.mpr unfinished)

/-- An exchange goes from stage to stage as it may, and leads to one in `Q`. -/
def Regular (Q : Stage → Prop) : Stage → List Exchange → Prop
  | p, [] => Q p
  | p, x :: t => Allows p x.1 ∧ Regular Q (p.after x) t

section Regular

variable {Q Q' : Stage → Prop} {p : Stage}

theorem regular_append :
    Regular Q p (t ++ u) ↔ Regular (fun q => Regular Q q u) p t := by
  induction t generalizing p with
  | nil => rfl
  | cons x t ih => simp only [List.cons_append, Regular, ih]

theorem Regular.imp (h : Regular Q p t) (imp : ∀ q, Q q → Q' q) : Regular Q' p t := by
  induction t generalizing p with
  | nil => exact imp p h
  | cons x t ih => exact ⟨h.1, ih h.2⟩

theorem Regular.rest (h : Regular Q p (t ++ u)) : Regular Q (t.foldl Stage.after p) u := by
  induction t generalizing p with
  | nil => exact h
  | cons x t ih => exact ih h.2

theorem Stage.Early.after (early : p.Early) (unrelated : Unrelated x.1) : (p.after x).Early := by
  obtain ⟨c, r⟩ := x
  cases early <;> cases c with
  | store c =>
      cases c with
      | saveExecution => exact unrelated.elim
      | _ => constructor
  | _ => constructor

theorem regular_early (early : p.Early) (unrelated : ∀ x ∈ t, Unrelated x.1) :
    Regular Stage.Early p t := by
  induction t generalizing p with
  | nil => exact early
  | cons x t ih =>
      rw [List.forall_mem_cons] at unrelated
      exact ⟨.aside (.early early) unrelated.1, ih (early.after unrelated.1) unrelated.2⟩

end Regular

section Operations

/-- A program that has nothing to do with runs. -/
abbrev Bystander (prog : Work α) : Prop := prog.Keeps Unrelated (fun _ => True) fun _ => True

theorem bystander_pure (a : α) : Bystander (pure a : Work α) := keeps_pure trivial

theorem bystander_ask {c : Call} (unrelated : Unrelated c) : Bystander (Program.ask c) :=
  keeps_ask unrelated fun _ _ => trivial

theorem bystander_bind {prog : Work α} {f : α → Work β} (h : Bystander prog)
    (rest : ∀ a, Bystander (f a)) : Bystander (prog >>= f) :=
  keeps_bind h fun a _ => rest a

theorem bystander_guarded {action : String} {workflow : Option String} {c : Store.Call}
    (unrelated : Unrelated (.store c)) : Bystander (guarded action workflow c) :=
  (keeps_guarded unrelated).imp fun _ _ => trivial

theorem bystander_getWorkflow (tenant id : String) : Bystander (getWorkflow tenant id) :=
  (keeps_getWorkflow (by exact trivial)).imp fun _ _ => trivial

theorem bystander_createWorkflow (tenant : String) (d : Draft) (creator : Option String) :
    Bystander (createWorkflow tenant d creator) := by
  unfold createWorkflow
  dsimp only
  split
  · exact bystander_pure _
  · refine bystander_bind (bystander_guarded (by exact trivial)) fun r => ?_
    match r with
    | .ok v => exact bystander_pure _
    | .error f => cases f <;> exact bystander_pure _

theorem bystander_importWorkflow (tenant : String) (p : Portable) (creator : Option String) :
    Bystander (importWorkflow tenant p creator) := by
  unfold importWorkflow
  split
  · exact bystander_pure _
  · exact bystander_createWorkflow _ _ _

theorem bystander_updateWorkflow (tenant id : String) (c : Changes) :
    Bystander (updateWorkflow tenant id c) := by
  refine bystander_bind (bystander_getWorkflow tenant id) fun r => ?_
  split
  · exact bystander_pure _
  · split
    · exact bystander_pure _
    · exact bystander_guarded (by exact trivial)

theorem bystander_toggleStatus (tenant id : String) : Bystander (toggleStatus tenant id) := by
  refine bystander_bind (bystander_getWorkflow tenant id) fun r => ?_
  split
  · exact bystander_pure _
  · split
    · exact bystander_pure _
    · exact bystander_guarded (by exact trivial)

theorem bystander_deleteWorkflow (tenant id : String) : Bystander (deleteWorkflow tenant id) := by
  refine bystander_bind (bystander_guarded (by exact trivial)) fun r => ?_
  split <;> exact bystander_pure _

theorem bystander_duplicateWorkflow (tenant id : String) (creator : Option String) :
    Bystander (duplicateWorkflow tenant id creator) := by
  refine bystander_bind (bystander_getWorkflow tenant id) fun r => ?_
  split
  · exact bystander_pure _
  · exact bystander_bind (bystander_ask (by exact trivial)) fun _ =>
      bystander_guarded (by exact trivial)

theorem bystander_listExecutions (s : Settings) (tenant workflow : String) (limit : Option Int) :
    Bystander (listExecutions s tenant workflow limit) := by
  refine bystander_bind (bystander_getWorkflow tenant workflow) fun r => ?_
  split
  · exact bystander_pure _
  · exact bystander_guarded (by exact trivial)

theorem bystander_getExecution (tenant id : String) : Bystander (getExecution tenant id) := by
  refine bystander_bind (bystander_guarded (by exact trivial)) fun r => ?_
  split <;> exact bystander_pure _

theorem bystander_cancelExecution (tenant id : String) :
    Bystander (cancelExecution tenant id) := by
  refine bystander_bind (bystander_getExecution tenant id) fun r => ?_
  split
  · exact bystander_pure _
  · split
    · exact bystander_pure _
    refine bystander_bind (bystander_ask (by exact trivial)) fun (asked : Bool) => ?_
    cases asked with
    | true =>
        refine bystander_bind (bystander_ask (by exact trivial)) fun _ => ?_
        refine bystander_bind (bystander_getExecution tenant id) fun r => ?_
        split
        · exact bystander_pure _
        · split <;> exact bystander_pure _
    | false =>
        refine bystander_bind (bystander_ask (by exact trivial)) fun _ => ?_
        refine bystander_bind (bystander_guarded (by exact trivial)) fun r => ?_
        split <;> exact bystander_pure _

/-- Every operation but an execution keeps away from runs. -/
theorem execute_or_bystander (o : Operation) :
    (∃ tenant id request, o = .execute tenant id request) ∨ Bystander o.work := by
  cases o with
  | createWorkflow tenant d creator => exact .inr (bystander_createWorkflow tenant d creator)
  | getWorkflow tenant id => exact .inr (bystander_getWorkflow tenant id)
  | listWorkflows => exact .inr (bystander_guarded (by exact trivial))
  | updateWorkflow tenant id c => exact .inr (bystander_updateWorkflow tenant id c)
  | deleteWorkflow tenant id => exact .inr (bystander_deleteWorkflow tenant id)
  | toggleStatus tenant id => exact .inr (bystander_toggleStatus tenant id)
  | duplicateWorkflow tenant id creator =>
      exact .inr (bystander_duplicateWorkflow tenant id creator)
  | exportWorkflow tenant id =>
      exact .inr (bystander_bind (bystander_getWorkflow tenant id) fun _ => bystander_pure _)
  | importWorkflow tenant p creator => exact .inr (bystander_importWorkflow tenant p creator)
  | execute tenant id request => exact .inl ⟨tenant, id, request, rfl⟩
  | listExecutions s tenant workflow limit =>
      exact .inr (bystander_listExecutions s tenant workflow limit)
  | getExecution tenant id => exact .inr (bystander_getExecution tenant id)
  | cancelExecution tenant id => exact .inr (bystander_cancelExecution tenant id)
  | close =>
      exact .inr (bystander_bind (bystander_ask (by exact trivial)) fun _ => bystander_pure _)

end Operations

section Run

variable {Q : Stage → Prop} {p : Stage}

theorem new_of_newExecution {fields : Fields} {start : Moment}
    (new : newExecution w fields id start = .ok e) : e.id = id ∧ e.isFinished = false := by
  obtain ⟨workflow, -, rfl⟩ := newExecution_eq_ok new
  exact ⟨rfl, rfl⟩

theorem regular_prepare {data : Value} {r : Except Failure Execution} (early : p.Early)
    (h : Prepares w data t r) :
    Regular (fun q => match r with
      | .ok e => q = .entered e.id
      | .error _ => q.Settled) p t := by
  have draw : Allows p .freshId := .aside (.early early) trivial
  have drawn (fresh : String) : p.after ⟨.freshId, fresh⟩ = .drew fresh := by cases early <;> rfl
  have date (fresh : String) : Allows (.drew fresh) .now := .aside (.early (.drew fresh)) trivial
  cases h with
  | refused => exact .early early
  | formless fresh =>
      refine ⟨draw, ?_⟩
      rw [drawn]
      exact .early (.drew fresh)
  | invalid fresh =>
      refine ⟨draw, ?_⟩
      rw [drawn]
      exact ⟨date fresh, .early (.drew fresh)⟩
  | unsaved fresh start new =>
      obtain ⟨rfl, unfinished⟩ := new_of_newExecution new
      refine ⟨draw, ?_⟩
      rw [drawn]
      exact ⟨date _, .begin unfinished, .denied _⟩
  | registered fresh start given new =>
      obtain ⟨rfl, unfinished⟩ := new_of_newExecution new
      refine ⟨draw, ?_⟩
      rw [drawn]
      exact ⟨date _, .begin unfinished, .register _, .aside (.entered _) trivial, rfl⟩

/-- A step of a walk that the store did not refuse leaves the run where it is. -/
theorem after_working (running : e.status = .running) (work : Working e k x)
    (granted : ∀ c f, x ≠ ⟨.store c, .error f⟩) :
    Allows (.running e.id k t) x.1 ∧
      (Stage.running e.id k t).after x = .running e.id k (t ++ [x]) := by
  cases work with
  | @saved l steps reply =>
      have unfinished : l.isFinished = false :=
        Execution.isFinished_eq_false.mpr (steps.status.trans running)
      have allowed : Allows (.running l.id k t) (saving l reply).1 := .save l k t
      rw [(steps.id :)] at allowed
      refine ⟨allowed, ?_⟩
      cases reply with
      | error f => exact absurd rfl (granted _ f)
      | ok _ => exact if_neg (by rw [unfinished]; exact Bool.false_ne_true)
  | drawn | timed | told | invoked | polled => exact ⟨.aside (.running _ _ _) trivial, rfl⟩

theorem regular_walk (running : e.status = .running) (work : ∀ x ∈ u, Working e k x)
    (stored : Stored u) (goal : Q (.running e.id k (t ++ u))) :
    Regular Q (.running e.id k t) u := by
  induction u generalizing t with
  | nil =>
      rw [List.append_nil] at goal
      exact goal
  | cons x u ih =>
      rw [List.forall_mem_cons] at work
      obtain ⟨granted, stored⟩ := stored_cons.mp stored
      obtain ⟨allowed, stays⟩ := after_working (t := t) running work.1 granted
      refine ⟨allowed, ?_⟩
      rw [stays]
      refine ih work.2 stored ?_
      rw [List.append_assoc]
      exact goal

theorem after_ended (finished : d.isFinished = true) :
    (Stage.running id k t).after (saving d (.ok ())) =
      if d.status = .completed then .counting id k else .ending id k := if_pos finished

/-- What a run does after its walk, in which the store refused nothing. -/
theorem regular_conclude {s : Execution × Option Stop} {c : List Exchange}
    {r : Except Failure Execution} (steps : OnlySteps e s.1) (h : Concludes w k s c r)
    (raised : ∀ f, concluded s.1 s.2 = .error f → Raised w e (t ++ [⟨.release e.id k, ()⟩])) :
    Regular (· = .left e.id) (.running e.id k t) c := by
  obtain ⟨l, stop⟩ := s
  have same : l.id = e.id := steps.id
  have date : Allows (.running e.id k t) .now := .aside (.running _ _ _) trivial
  have finish {d : Execution} (ending : Ending e d) (u : List Exchange) :
      Allows (.running e.id k u) (.store (.saveExecution d)) := by
    rw [← ending.id]
    exact .save d k u
  have release : Allows (.ending e.id k) (.release e.id k) := .release e.id k
  cases h with
  | aborted taken =>
      rw [same]
      exact ⟨.abort (raised _ taken), rfl⟩
  | unsaved taken time f =>
      have ending := ending_of_concluded steps taken time
      rw [same]
      exact ⟨date, finish ending _, release, rfl⟩
  | uncounted taken completed time f =>
      have ending := ending_of_concluded steps taken time
      rw [same]
      refine ⟨date, finish ending _, ?_⟩
      show Regular _ (Stage.after (.running _ _ _) _) _
      rw [after_ended ending.finished, if_pos completed]
      exact ⟨.count _ _ _ _ _, release, rfl⟩
  | counted taken completed time reply =>
      have ending := ending_of_concluded steps taken time
      rw [same]
      refine ⟨date, finish ending _, ?_⟩
      show Regular _ (Stage.after (.running _ _ _) _) _
      rw [after_ended ending.finished, if_pos completed]
      exact ⟨.count _ _ _ _ _, release, .aside (.left _) trivial, rfl⟩
  | closed taken incomplete time reply =>
      have ending := ending_of_concluded steps taken time
      rw [same]
      refine ⟨date, finish ending _, ?_⟩
      show Regular _ (Stage.after (.running _ _ _) _) _
      rw [after_ended ending.finished, if_neg incomplete]
      exact ⟨release, .aside (.left _) trivial, rfl⟩

theorem regular_run {r : Except Failure Execution} (prepared : Prepared w e)
    (ran : (run w alone e).Ends t r) (attach : Allows p (.attach e.id))
    (attached : ∀ k : Ticket,
      p.after ⟨.attach e.id, k⟩ = .running e.id k [⟨.attach e.id, k⟩]) :
    Regular (· = .left e.id) p t := by
  obtain ⟨u, ⟨l, stop⟩, @⟨k, _, _, c, _, traverses, concludes⟩⟩ := course_of_ends ran
  suffices rest : Regular (· = .left e.id) (.running e.id k [⟨.attach e.id, k⟩])
      (exchanges u ++ c) from ⟨attach, (attached k).symm ▸ rest⟩
  rw [regular_append]
  obtain stored | ⟨before, f, walked, stored, stopped⟩ := traverses.storedOrStopped prepared
  · exact regular_walk prepared.running traverses.working stored
      (regular_conclude traverses.onlySteps concludes fun f taken =>
        traverses.raised prepared taken stored)
  · dsimp only at walked stopped
    subst stopped
    have same : l.id = e.id := traverses.onlySteps.id
    have work := traverses.working
    rw [walked, List.forall_mem_append] at work
    rw [walked, regular_append]
    refine regular_walk prepared.running work.1 stored ?_
    have saved : Allows (.running e.id k ([⟨.attach e.id, k⟩] ++ before))
        (saving l (.error f)).1 := by
      rw [← same]
      exact .save l k _
    cases concludes with
    | aborted taken =>
        rw [same]
        exact ⟨saved, .release e.id k, rfl⟩
    | unsaved taken | uncounted taken | counted taken | closed taken => cases taken

end Run

namespace Job

def stage : Job → Stage
  | operation _ => .idle
  | run _ e => .taken e.id

def Over : Job → Stage → Prop
  | operation _, p => p.Settled
  | run _ e, p => p = .gone e.id

theorem regular_execute {request : RunRequest} {r : Except Failure Execution}
    (h : (Service.execute tenant id request).Ends t r) : Regular Stage.Settled .idle t := by
  have found {t : List Exchange} {r : Except Failure Workflow}
      (looked : (getWorkflow tenant id).Ends t r) : Regular Stage.Early .idle t :=
    regular_early .idle ((bystander_getWorkflow tenant id).of_mem looked)
  cases executing_of_ends h with
  | missing looked => exact (found looked).imp fun _ early => .early early
  | refused looked prepared =>
      rw [regular_append]
      exact (found looked).imp fun _ early => regular_prepare early (prepares_of_ends prepared)
  | @handed w e _ _ looked prepared =>
      have launched := launched_of_prepares (prepares_of_ends prepared)
      rw [regular_append]
      refine (found looked).imp fun _ early => ?_
      rw [regular_append]
      refine (regular_prepare early (prepares_of_ends prepared)).imp ?_
      rintro _ rfl
      exact ⟨.hand launched, .handed e.id⟩
  | @ran w e _ _ _ _ looked prepared ran =>
      rw [regular_append]
      refine (found looked).imp fun _ early => ?_
      rw [regular_append]
      refine (regular_prepare early (prepares_of_ends prepared)).imp ?_
      rintro _ rfl
      refine (regular_run (prepared_of_ends prepared) ran (.attach e.id) fun _ => rfl).imp ?_
      rintro _ rfl
      exact .left e.id

/-- Every job goes from stage to stage as it may, whatever is answered. -/
theorem regular {j : Job} (fit : j.Fit) {r : Except Failure j.Given} (h : j.work.Ends t r) :
    Regular j.Over j.stage t := by
  cases j with
  | operation o =>
      obtain ⟨tenant, id, request, rfl⟩ | bystander := execute_or_bystander o
      · exact regular_execute h
      · exact (regular_early .idle (bystander.of_mem h)).imp fun _ early => .early early
  | run w e =>
      obtain ⟨t, ran, rfl⟩ := ends_background h
      rw [regular_append]
      refine (regular_run fit.toPrepared ran (.resume e.id) fun _ => rfl).imp ?_
      rintro _ rfl
      exact ⟨.leave e.id, rfl⟩

end Job
end TriggerFlow.Server
