import TriggerFlow.Proofs.Server.Protocol

/-!
Every job keeps to the protocol. A run that comes to its end has released its record, and one that
fails was taken down by an evaluation; a cancellation that succeeds has seen the cancelled record,
and one that is refused has met a finished record, or one that a run left behind.
-/

namespace TriggerFlow.Server

open Engine Program Service

variable {α : Type} {p : Phase} {w : Workflow} {e d : Execution} {k : Ticket} {t : List Exchange}
  {id tenant : String}

theorem obeys_guarded {action : String} {workflow : Option String} {c : Store.Call}
    {Q : Store.Reply c → Phase → Prop} (permits : Permits p (.store c))
    (ok : ∀ v, Kept ⟨.store c, .ok v⟩ → Q (.ok v) (p.after ⟨.store c, .ok v⟩))
    (error : ∀ f, Kept ⟨.store c, .error f⟩ → ∀ g, Q (.error g) (p.after ⟨.store c, .error f⟩)) :
    Obeys Q p (guarded action workflow c) := by
  refine obeys_bind (obeys_ask fun (r : Store.Reply c) kept => ⟨permits, ?_⟩)
  cases r with
  | ok v => exact obeys_pure (ok v kept)
  | error f => cases f <;> exact obeys_pure (error _ kept _)

section Harmless

theorem harmless_guarded {action : String} {workflow : Option String} {c : Store.Call}
    (mild : Mild (.store c)) : Harmless (guarded action workflow c) := by
  refine harmless_bind (harmless_ask mild) fun r => ?_
  split <;> exact harmless_pure _

theorem harmless_getWorkflow (tenant id : String) : Harmless (getWorkflow tenant id) := by
  refine harmless_bind (harmless_guarded (by exact trivial)) fun r => ?_
  split <;> exact harmless_pure _

theorem harmless_createWorkflow (tenant : String) (d : Draft) (creator : Option String) :
    Harmless (createWorkflow tenant d creator) := by
  unfold createWorkflow
  dsimp only
  split
  · exact harmless_pure _
  · refine harmless_bind (harmless_guarded (by exact ⟨rfl, rfl⟩)) fun r => ?_
    cases r with
    | ok v => exact harmless_pure _
    | error f => cases f <;> exact harmless_pure _

theorem harmless_importWorkflow (tenant : String) (p : Portable) (creator : Option String) :
    Harmless (importWorkflow tenant p creator) := by
  unfold importWorkflow
  split
  · exact harmless_pure _
  · exact harmless_createWorkflow _ _ _

theorem harmless_updateWorkflow (tenant id : String) (c : Changes) :
    Harmless (updateWorkflow tenant id c) := by
  refine harmless_bind (harmless_getWorkflow tenant id) fun r => ?_
  split
  · exact harmless_pure _
  · split
    · exact harmless_pure _
    · exact harmless_guarded (by exact trivial)

theorem harmless_toggleStatus (tenant id : String) : Harmless (toggleStatus tenant id) := by
  refine harmless_bind (harmless_getWorkflow tenant id) fun r => ?_
  split
  · exact harmless_pure _
  · split
    · exact harmless_pure _
    · exact harmless_guarded (by exact trivial)

theorem harmless_deleteWorkflow (tenant id : String) : Harmless (deleteWorkflow tenant id) := by
  refine harmless_bind (harmless_guarded (by exact trivial)) fun r => ?_
  split <;> exact harmless_pure _

theorem harmless_exportWorkflow (tenant id : String) : Harmless (exportWorkflow tenant id) :=
  harmless_bind (harmless_getWorkflow tenant id) fun _ => harmless_pure _

theorem harmless_listExecutions (s : Settings) (tenant workflow : String) (limit : Option Int) :
    Harmless (listExecutions s tenant workflow limit) := by
  refine harmless_bind (harmless_getWorkflow tenant workflow) fun r => ?_
  split
  · exact harmless_pure _
  · exact harmless_guarded (by exact trivial)

end Harmless

/-- A workflow that was found is the one the task goes on with. -/
theorem obeys_getWorkflow (tenant id : String) :
    Obeys (fun r q => match r with
      | .ok w => q = .loaded w
      | .error _ => q.isLive = false) .idle (getWorkflow tenant id) := by
  refine obeys_bind (obeys_guarded (.mild .idle trivial) (fun found _ => ?_)
    fun _ kept => kept.elim)
  cases found with
  | none => exact obeys_pure rfl
  | some w => exact obeys_pure rfl

theorem obeys_getExecution {Q : Except Failure Execution → Phase → Prop}
    (permits : Permits p (.store (.getExecution id tenant)))
    (found : ∀ e, Q (.ok e) (p.after ⟨.store (.getExecution id tenant), .ok (some e)⟩))
    (missing : Q (.error (.engine (.executionNotFound id)))
      (p.after ⟨.store (.getExecution id tenant), .ok none⟩)) :
    Obeys Q p (getExecution tenant id) := by
  refine obeys_bind (obeys_guarded permits (fun r _ => ?_) fun _ kept => kept.elim)
  cases r with
  | none => exact obeys_pure missing
  | some e => exact obeys_pure (found e)

theorem obeys_duplicateWorkflow (tenant id : String) (creator : Option String) :
    Obeys (fun _ q => q.isLive = false) .idle (duplicateWorkflow tenant id creator) := by
  refine obeys_bind ((obeys_getWorkflow tenant id).imp fun r q h => ?_)
  cases r with
  | error f => exact obeys_pure h
  | ok w =>
      obtain rfl : q = .loaded w := h
      refine obeys_bind (obeys_ask fun fresh _ => ⟨.draw w, ?_⟩)
      exact obeys_guarded (.copy w fresh rfl rfl) (fun _ _ => rfl) fun _ kept => kept.elim

section Run

theorem launched_of_prepares {data : Value} (h : Prepares w data t (.ok e)) : Launched w e := by
  cases h with
  | registered fresh start given new active check k told =>
      obtain ⟨workflow, named, rfl⟩ := newExecution_eq_ok new
      exact ⟨⟨Workflow.activatable_of_check check, active, rfl, rfl, rfl⟩, named, rfl⟩

/-- A record that was prepared is stored and registered. -/
theorem obeys_prepare (w : Workflow) (data : Value) :
    Obeys (fun r q => match r with
      | .ok e => q = .ready w e ∧ Launched w e
      | .error _ => q.isLive = false) (.loaded w) (prepare w data) := by
  intro t r ends
  have prepares := prepares_of_ends ends
  cases r with
  | error f =>
      cases prepares with
      | refused => exact rfl
      | formless => exact fun _ => ⟨.draw w, rfl⟩
      | invalid => exact fun _ => ⟨.draw w, fun _ => ⟨.date w _, rfl⟩⟩
      | unsaved => exact fun _ => ⟨.draw w, fun _ => ⟨.date w _, fun kept => kept.elim⟩⟩
  | ok e =>
      have launched := launched_of_prepares prepares
      cases prepares with
      | registered fresh start given new active check k told =>
          obtain rfl : e.id = fresh := by
            obtain ⟨workflow, -, rfl⟩ := newExecution_eq_ok new
            rfl
          exact fun _ => ⟨.draw w, fun _ => ⟨.date w _, fun _ => ⟨.begin launched, fun _ =>
            ⟨.register w e, fun _ => ⟨.announce w e _ _ _, rfl, launched⟩⟩⟩⟩⟩

theorem after_work {x : Exchange} (running : e.status = .running) (h : Working e k x) :
    (Phase.running w e k t).after x = .running w e k (t ++ [x]) := by
  cases h with
  | @saved l steps reply =>
      have unfinished : l.isFinished = false :=
        Execution.isFinished_eq_false.mpr (steps.status.trans running)
      show (if l.isFinished then Phase.stored l k else .running w e k (t ++ [saving l reply])) = _
      rw [unfinished, if_neg Bool.false_ne_true]
  | drawn | timed | told | invoked | polled => rfl

theorem after_finish {r : Except Failure Unit} (h : d.isFinished = true) :
    (Phase.running w e k t).after (saving d r) = .stored d k := by
  show (if d.isFinished then Phase.stored d k else .running w e k (t ++ [saving d r])) = _
  rw [if_pos h]

theorem lawful_work {Q : Phase → Prop} {u : List Exchange} (running : e.status = .running)
    (work : ∀ x ∈ u, Working e k x)
    (goal : (∀ x ∈ u, Kept x) → Q (.running w e k (t ++ u))) : Lawful Q (.running w e k t) u := by
  induction u generalizing t with
  | nil =>
      have here := goal (List.forall_mem_nil _)
      rw [List.append_nil] at here
      exact here
  | cons x u ih =>
      rw [List.forall_mem_cons] at work
      intro kept
      refine ⟨.work w t work.1, ?_⟩
      rw [after_work running work.1]
      refine ih work.2 fun all => ?_
      rw [List.append_assoc]
      exact goal (List.forall_mem_cons.mpr ⟨kept, all⟩)

/-- Where the store works, a walk has saved all it was to save. -/
theorem stored_of_kept {u : List Exchange} (work : ∀ x ∈ u, Working e k x)
    (kept : ∀ x ∈ u, Kept x) : Stored u := by
  intro c f hx
  cases work _ hx with
  | saved => exact kept _ hx

theorem ending_of_concluded {l ended : Execution} {stop : Option Stop} (steps : OnlySteps e l)
    (taken : concluded l stop = .ok ended) (finish : Moment) :
    Ending e { ended with completedAt := some finish } := by
  have finished : ended.isFinished = true := concluded_isFinished taken
  rw [OnlySteps] at steps
  rw [steps] at taken
  unfold concluded at taken
  split at taken
  · cases taken
  all_goals
    cases taken
    exact ⟨finished, rfl, rfl, rfl⟩

theorem lawful_finish {Q : Phase → Prop} {finish : Moment} {r : Except Failure Unit}
    {c : List Exchange} (ending : Ending e d)
    (rest : Kept (saving d r) → Lawful Q (.stored d k) c) :
    Lawful Q (.running w e k t) (⟨.now, finish⟩ :: saving d r :: c) := by
  refine fun _ => ⟨.work w t (.timed finish), fun kept => ⟨.finish w k _ ending, ?_⟩⟩
  show Lawful Q ((Phase.running w e k (t ++ [⟨.now, finish⟩])).after (saving d r)) c
  rw [after_finish ending.finished]
  exact rest kept

theorem permits_count (launched : Launched w e) (ending : Ending e d)
    (completed : d.status = .completed) (finish : Moment) :
    Permits (.stored d k) (.store (.incrementRunCount w.id w.tenant finish)) := by
  rw [launched.workflow, ← launched.tenant, ← ending.workflow, ← ending.tenant]
  exact .count k completed finish

theorem permits_release (incomplete : d.status ≠ .completed) (same : id = d.id) :
    Permits (.stored d k) (.release id k) := by
  rw [same]
  exact .release k incomplete

theorem permits_release_counted (same : id = d.id) : Permits (.counted d k) (.release id k) := by
  rw [same]
  exact .releaseCounted d k

/-- Where a run ends. -/
def Ran (w : Workflow) (e : Execution) : Except Failure Execution → Phase → Prop
  | .ok d, p => p = .released d
  | .error _, p => ∃ t, p = .aborted w e t

theorem Ran.isLive {r : Except Failure Execution} (h : Ran w e r p) : p.isLive = false := by
  cases r with
  | ok d =>
      obtain rfl : p = .released d := h
      rfl
  | error f =>
      obtain ⟨t, rfl⟩ := h
      rfl

/-- What a run does after its walk: it stores its end, counts a completion and leaves the registry;
or it was taken down, and just leaves. -/
theorem lawful_conclude {s : Execution × Option Stop} {c : List Exchange}
    {r : Except Failure Execution} (launched : Launched w e) (steps : OnlySteps e s.1)
    (h : Concludes w k s c r)
    (raised : ∀ f, concluded s.1 s.2 = .error f → Raised w e (t ++ [⟨.release e.id k, ()⟩])) :
    Lawful (Ran w e r) (.running w e k t) c := by
  cases h with
  | @aborted l stop f taken =>
      have abort : Permits (.running w e k t) (.release e.id k) := .abort (raised f taken)
      rw [← (steps.id : l.id = e.id)] at abort
      exact fun _ => ⟨abort, _, rfl⟩
  | @unsaved l ended stop taken finish f =>
      exact lawful_finish (ending_of_concluded steps taken finish) fun kept => kept.elim
  | @uncounted l ended stop taken completed finish f =>
      exact lawful_finish (ending_of_concluded steps taken finish) fun _ kept => kept.elim
  | @counted l ended stop taken completed finish reply =>
      have ending := ending_of_concluded steps taken finish
      have same : l.id = ended.id := (concluded_id taken).symm
      refine lawful_finish ending fun _ => fun _ => ⟨?_, fun _ => ⟨?_, fun _ => ⟨?_, rfl⟩⟩⟩
      · exact permits_count launched ending completed finish
      · exact permits_release_counted same
      · exact .farewell _ _ _ _
  | @closed l ended stop taken incomplete finish reply =>
      have ending := ending_of_concluded steps taken finish
      have same : l.id = ended.id := (concluded_id taken).symm
      refine lawful_finish ending fun _ => fun _ => ⟨?_, fun _ => ⟨?_, rfl⟩⟩
      · exact permits_release incomplete same
      · exact .farewell _ _ _ _

/-- A run from its registered record on. -/
theorem obeys_run (launched : Launched w e) : Obeys (Ran w e) (.ready w e) (run w alone e) := by
  intro t r ends
  obtain ⟨u, s, course⟩ := course_of_ends ends
  cases course with
  | @intro k u s c r traverses concludes =>
      refine fun _ => ⟨.attach w e, ?_⟩
      show Lawful _ (.running w e k [⟨.attach e.id, k⟩]) (exchanges u ++ c)
      rw [lawful_append]
      refine lawful_work launched.running traverses.working fun kept => ?_
      refine lawful_conclude launched traverses.onlySteps concludes fun f taken => ?_
      exact traverses.raised launched.toPrepared taken (stored_of_kept traverses.working kept)

end Run

/-- Where the execution of a workflow ends: with its run, if that is not left to the background. -/
def Executes (request : RunRequest) : Except Failure Execution → Phase → Prop
  | .ok d, p => p.isLive = false ∧ (request.background = false → p = .released d)
  | .error _, p => p.isLive = false

theorem obeys_execute (tenant id : String) (request : RunRequest) :
    Obeys (Executes request) .idle (execute tenant id request) := by
  refine obeys_bind ((obeys_getWorkflow tenant id).imp fun r q h => ?_)
  cases r with
  | error f => exact obeys_pure h
  | ok w =>
      obtain rfl : q = .loaded w := h
      dsimp only
      split
      · next background =>
        refine obeys_bind ((obeys_prepare w request.triggerData).imp fun r q h => ?_)
        cases r with
        | error f => exact obeys_pure h
        | ok e =>
            obtain ⟨rfl, launched⟩ := h
            refine obeys_bind (obeys_ask fun _ _ => ⟨.hand launched, obeys_pure ⟨rfl, ?_⟩⟩)
            intro inline
            rw [background] at inline
            cases inline
      · refine obeys_bind ((obeys_prepare w request.triggerData).imp fun r q h => ?_)
        cases r with
        | error f => exact obeys_pure h
        | ok e =>
            obtain ⟨rfl, launched⟩ := h
            refine (obeys_run launched).imp fun r q h => ?_
            cases r with
            | ok d => exact ⟨h.isLive, fun _ => h⟩
            | error f => exact h.isLive

/-- A failure that says that an execution is not running. -/
def Refuses : Failure → Prop
  | .engine e => e.kind = .executionNotRunning
  | _ => False

/-- Where a cancellation ends. -/
def Cancels (id : String) : Except Failure Execution → Phase → Prop
  | .ok d, p => p = .seen id d ∧ d.status = .cancelled
  | .error f, p => p.isLive = false ∧
    (Refuses f → (∃ e, p = .seen id e) ∨ p = .refused id ∨ p = .stranded id)

theorem Cancels.isLive {r : Except Failure Execution} (h : Cancels id r p) : p.isLive = false := by
  cases r with
  | ok d =>
      obtain rfl : p = .seen id d := h.1
      rfl
  | error f => exact h.1

theorem cancels_missing (rests : p.isLive = false) :
    Cancels id (.error (.engine (.executionNotFound id))) p :=
  ⟨rests, fun refuses => by cases refuses⟩

theorem obeys_cancelExecution (tenant id : String) :
    Obeys (Cancels id) .idle (cancelExecution tenant id) := by
  refine obeys_bind (obeys_getExecution (.lookUp id tenant) (fun e => ?_)
    (obeys_pure (cancels_missing rfl)))
  show Obeys (Cancels id) (if e.isFinished then Phase.seen id e else .found id tenant) _
  dsimp only
  split
  · exact obeys_pure ⟨rfl, fun _ => .inl ⟨e, rfl⟩⟩
  refine obeys_bind (obeys_ask fun (asked : Bool) _ => ⟨.ask id tenant, ?_⟩)
  cases asked with
  | true =>
      refine obeys_bind (obeys_ask fun _ _ => ⟨.await id tenant, ?_⟩)
      refine obeys_bind (obeys_getExecution (.lookAgain id tenant) (fun d => ?_)
        (obeys_pure (cancels_missing rfl)))
      show Obeys (Cancels id) (if d.isFinished then Phase.seen id d else .stranded id) _
      dsimp only
      cases finished : d.isFinished with
      | true =>
          rw [if_pos rfl]
          split
          · next cancelled => exact obeys_pure ⟨rfl, cancelled⟩
          · exact obeys_pure ⟨rfl, fun _ => .inl ⟨d, rfl⟩⟩
      | false =>
          have running : d.status ≠ .cancelled := by
            intro cancelled
            cases cancelled.symm.trans (Execution.isFinished_eq_false.mp finished)
          rw [if_neg Bool.false_ne_true, if_neg running]
          exact obeys_pure ⟨rfl, fun _ => .inr (.inr rfl)⟩
  | false =>
      refine obeys_bind (obeys_ask fun (finish : Moment) _ => ⟨.dateEnd id tenant, ?_⟩)
      refine obeys_bind (obeys_guarded (.mark id tenant finish) (fun r kept => ?_)
        fun _ kept => kept.elim)
      cases r with
      | none => exact obeys_pure ⟨rfl, fun _ => .inr (.inl rfl)⟩
      | some d => exact obeys_pure ⟨rfl, kept⟩

namespace Job

/-- The phase in which a job starts. -/
def phase : Job → Phase
  | operation _ => .idle
  | run w e => .ready w e

def Fit : Job → Prop
  | operation _ => True
  | run w e => Launched w e

/-- What holds where a job is done. -/
def Settled : (j : Job) → Except Failure j.Given → Phase → Prop
  | run w e, r, p => Ran w e r p
  | operation (.execute _ _ request), r, p => Executes request r p
  | operation (.cancelExecution _ id), r, p => Cancels id r p
  | operation _, _, p => p.isLive = false

theorem Settled.isLive {j : Job} {r : Except Failure j.Given} (h : j.Settled r p) :
    p.isLive = false := by
  cases j with
  | run w e => exact Ran.isLive h
  | operation o =>
      cases o with
      | execute =>
          cases r with
          | ok d => exact h.1
          | error f => exact h
      | cancelExecution => exact Cancels.isLive h
      | _ => exact h

theorem obeys_harmless {prog : Work α} (h : Harmless prog) :
    Obeys (fun _ q => q.isLive = false) .idle prog :=
  (h .idle .idle).imp fun _ _ early => early.isLive

theorem obeys_operation (o : Operation) : Obeys (Settled (operation o)) .idle o.work := by
  cases o with
  | createWorkflow tenant d creator =>
      exact obeys_harmless (harmless_createWorkflow tenant d creator)
  | getWorkflow tenant id => exact obeys_harmless (harmless_getWorkflow tenant id)
  | listWorkflows => exact obeys_harmless (harmless_guarded trivial)
  | updateWorkflow tenant id c => exact obeys_harmless (harmless_updateWorkflow tenant id c)
  | deleteWorkflow tenant id => exact obeys_harmless (harmless_deleteWorkflow tenant id)
  | toggleStatus tenant id => exact obeys_harmless (harmless_toggleStatus tenant id)
  | duplicateWorkflow tenant id creator => exact obeys_duplicateWorkflow tenant id creator
  | exportWorkflow tenant id => exact obeys_harmless (harmless_exportWorkflow tenant id)
  | importWorkflow tenant p creator =>
      exact obeys_harmless (harmless_importWorkflow tenant p creator)
  | execute tenant id request => exact obeys_execute tenant id request
  | listExecutions s tenant workflow limit =>
      exact obeys_harmless (harmless_listExecutions s tenant workflow limit)
  | getExecution tenant id =>
      refine obeys_getExecution (.lookUp id tenant) (fun e => ?_) rfl
      show (if e.isFinished then Phase.seen id e else .found id tenant).isLive = false
      split <;> rfl
  | cancelExecution tenant id => exact obeys_cancelExecution tenant id
  | close =>
      exact obeys_harmless
        (harmless_bind (harmless_ask (by exact trivial)) fun _ => harmless_pure _)

/-- Every job keeps to the protocol, whatever is answered. -/
theorem obeys (j : Job) (fit : j.Fit) : Obeys j.Settled j.phase j.work := by
  cases j with
  | operation o => exact obeys_operation o
  | run w e =>
      refine obeys_bind ((obeys_run fit).imp fun r q ran => ?_)
      cases r with
      | ok d =>
          obtain rfl : q = .released d := ran
          have ended : Ran w e (.ok d) (.released d) := rfl
          exact obeys_bind (obeys_ask fun _ _ => ⟨.leave d e.id, obeys_pure ended⟩)
      | error f =>
          obtain ⟨t, rfl⟩ := ran
          have ended : Ran w e (.error f) (.aborted w e t) := ⟨t, rfl⟩
          exact obeys_bind (obeys_ask fun _ _ => ⟨.leaveAborted w e t e.id, obeys_pure ended⟩)

end Job

/-- Every program can come to an end. -/
theorem exists_ends (prog : Work α) : ∃ t a, prog.Ends t a :=
  ⟨_, _, ends_run (fun c w => World.perform w (.calm (.utc 0) "") c) prog .empty⟩

/-- The exchange of a run is the last part of what a task had so far, or was a part of it when the
run was taken down. -/
def Traced (past : List Exchange) : Phase → Prop
  | .running _ _ _ t => t <:+ past
  | .aborted w e t => t <:+: past ∧ Raised w e t
  | _ => True

theorem Phase.Early.traced {past : List Exchange} (early : p.Early) : Traced past p := by
  cases early <;> trivial

theorem Traced.after {past : List Exchange} {x : Exchange} (h : Traced past p)
    (permits : Permits p x.1) : Traced (past ++ [x]) (p.after x) := by
  have grows {t : List Exchange} (h : t <:+ past) : t ++ [x] <:+ past ++ [x] := by
    obtain ⟨before, rfl⟩ := h
    exact ⟨before, (List.append_assoc ..).symm⟩
  obtain ⟨c, r⟩ := x
  cases permits with
  | mild early mild => exact (early.after mild).traced
  | lookUp id tenant =>
      show Traced _ (Phase.look .idle _)
      unfold Phase.look
      split
      · trivial
      · split <;> trivial
      · trivial
  | attach w e => exact List.suffix_append _ _
  | work w t work =>
      cases work with
      | saved =>
          show Traced _ (if _ then _ else _)
          split
          · trivial
          · exact grows h
      | drawn | timed | told | invoked | polled => exact grows h
  | @finish w e d k t ending =>
      have stored : (Phase.running w e k t).after ⟨.store (.saveExecution d), r⟩ = .stored d k :=
        after_finish ending.finished
      rw [stored]
      trivial
  | abort raised => exact ⟨(grows h).isInfix, raised⟩
  | leaveAborted w e t id =>
      obtain ⟨⟨before, after, whole⟩, raised⟩ := h
      refine ⟨⟨before, after ++ [⟨.leaveBackground id, r⟩], ?_⟩, raised⟩
      rw [← whole, List.append_assoc _ after]
  | ask id tenant =>
      cases r <;> trivial
  | lookAgain id tenant =>
      match r with
      | .error f | .ok none => trivial
      | .ok (some e) =>
          show Traced _ (if _ then _ else _)
          split <;> trivial
  | mark id tenant finish =>
      match r with
      | .error f | .ok none | .ok (some e) => trivial
  | _ => trivial

namespace Task

/-- The phase that a task has reached. -/
def reached (t : Task) : Phase := t.past.foldl Phase.after t.job.phase

/-- The same, when it is seen that the task waits for the end of a run. -/
def phase (t : Task) : Phase :=
  match t.reached, t.waiting with
  | .asked id tenant, some (.finished k) => .waiting id tenant k
  | p, _ => p

/-- A task that has come from the start of its job to where it is, with a store that works. -/
structure Sound (t : Task) : Prop where
  fit : t.job.Fit
  continues : ∀ u a, t.rest.Ends u a → t.job.work.Ends (t.past ++ u) a
  kept : ∀ x ∈ t.past, Kept x
  traced : Traced t.past t.reached
  waits : ∀ {wait}, t.waiting = some wait → ∃ w c, t.next? = some c ∧ World.wait? w c = some wait

theorem sound_start {j : Job} (fit : j.Fit) : (start j).Sound where
  fit := fit
  continues _ _ h := h
  kept := List.forall_mem_nil _
  traced := by cases j <;> trivial
  waits := nofun

variable {job : Job} {past : List Exchange} {waiting : Option Wait}

theorem Sound.lawful {t : Task} (sound : t.Sound) {u : List Exchange}
    {a : Except Failure t.job.Given} (h : t.rest.Ends u a) : Lawful (t.job.Settled a) t.reached u :=
  (t.job.obeys sound.fit _ a (sound.continues u a h)).rest sound.kept

theorem Sound.settled {a : Except Failure job.Given} (sound : Sound ⟨job, past, .done a, waiting⟩) :
    job.Settled a (reached ⟨job, past, .done a, waiting⟩) :=
  sound.lawful (.done a)

theorem Sound.permits {c : Call} {next : Reply c → Work (Except Failure job.Given)}
    (sound : Sound ⟨job, past, .call c next, waiting⟩) {r : Reply c} (kept : Kept ⟨c, r⟩) :
    Permits (reached ⟨job, past, .call c next, waiting⟩) c := by
  -- the next call is one of a whole exchange, however the calls after it may be answered
  obtain ⟨u, a, ends⟩ := exists_ends (next r)
  exact (sound.lawful (.call c r ends) kept).1

theorem Sound.answered {c : Call} {next : Reply c → Work (Except Failure job.Given)}
    (sound : Sound ⟨job, past, .call c next, waiting⟩) {r : Reply c} (kept : Kept ⟨c, r⟩) :
    Sound ⟨job, past ++ [⟨c, r⟩], next r, none⟩ where
  fit := sound.fit
  continues u a h := by
    have whole := sound.continues _ a (.call c r h)
    rw [List.append_cons] at whole
    exact whole
  kept := by
    rw [List.forall_mem_append, List.forall_mem_singleton]
    exact ⟨sound.kept, kept⟩
  traced := by
    have traced := sound.traced.after (x := ⟨c, r⟩) (sound.permits kept)
    rw [reached, List.foldl_append]
    exact traced
  waits := nofun

end Task
end TriggerFlow.Server
