import TriggerFlow.Proofs.Server.Agreement
import TriggerFlow.Proofs.Server.Exchanges
import TriggerFlow.Proofs.Server.Moves

/-!
Refusals of cancellations while saves of the run may fail. A refusal tells that the execution is not
running. That is so unless a save of its run failed or a condition raised in it: such a run leaves
the registry without having stored an end, and whoever waited for it finds the record running and
is refused all the same.
-/

namespace TriggerFlow.Server

open Engine Program Service
open Store (Memory)

variable {tenant id : String} {t p u : List Exchange} {e d l : Execution} {f : Failure}
  {v : Workflow} {k : Ticket} {w : World} {o : Chance} {x : Exchange}

section Watching

/-- What an exchange of a cancellation says about the record and its run. A store does not fail with
a refusal. -/
def Attests (tenant : String) (e : Execution) (closed released : Prop) : Exchange → Prop
  | ⟨.store (.getExecution _ _), .ok (some d)⟩ =>
    tenant = e.tenant ∧ (d.isFinished = true → closed)
  | ⟨.store (.markCancelled _ _ _), .ok none⟩ => tenant = e.tenant → closed
  | ⟨.store _, .error f⟩ => ¬ Refuses f
  | ⟨.awaitFinished _, _⟩ => released
  | _ => True

theorem Cancelling.of_refused {closed released : Prop} (h : Cancelling tenant e.id t (.error f))
    (refuses : Refuses f) (attests : ∀ x ∈ t, Attests tenant e closed released x) :
    closed ∨ released := by
  cases h with
  | unread f same =>
      have honest : ¬ Refuses f := attests _ (.head _)
      exact absurd (same refuses) honest
  | missing => cases refuses
  | @late d finished =>
      have seen : tenant = e.tenant ∧ (d.isFinished = true → closed) := attests _ (.head _)
      exact .inl (seen.2 finished)
  | waited => exact .inr (attests _ (.tail _ (.tail _ (.head _))))
  | unmarked d finish =>
      have seen : tenant = e.tenant ∧ (d.isFinished = true → closed) := attests _ (.head _)
      have ended : tenant = e.tenant → closed := attests _ (.tail _ (.tail _ (.tail _ (.head _))))
      exact .inl (ended seen.1)
  | unstored d finish f same =>
      have honest : ¬ Refuses f := attests _ (.tail _ (.tail _ (.tail _ (.head _))))
      exact absurd (same refuses) honest

theorem Attests.mono {closed released closed' released' : Prop} (close : closed → closed')
    (release : released → released') (h : Attests tenant e closed released x) :
    Attests tenant e closed' released' x := by
  unfold Attests at h ⊢
  split at h
  · exact ⟨h.1, fun finished => close (h.2 finished)⟩
  · exact fun mine => close (h mine)
  · exact h
  · exact release h
  · trivial

def Closed (w : World) (id : String) : Prop := ∃ d, w.record? id = some d ∧ d.isFinished = true

theorem Closed.perform (h : Closed w id) (o : Chance) (c : Call) : Closed (w.perform o c).2 id := by
  obtain ⟨d, stored, finished⟩ := h
  exact ⟨d, State.record?_perform stored finished, finished⟩

/-- A save of a record under its own id and tenant, or any other call of the store. -/
def Loyal (e : Execution) : Store.Call → Prop
  | .saveExecution l => l.id = e.id → l.tenant = e.tenant
  | _ => True

theorem runs_store (w : World) (o : Chance) (c : Store.Call) :
    (w.perform o (.store c)).2.runs = w.runs := by
  unfold World.perform
  dsimp only
  split <;> rfl

theorem unfinished_before (stored : w.record? e.id = some d) (unfinished : d.isFinished = false)
    (same : l.id = e.id) :
    ∀ d', w.memory.executions.get? l.id = some d' → d'.isFinished = false := by
  intro d' stored'
  rw [same] at stored'
  cases stored.symm.trans stored'
  exact unfinished

theorem Known.save (h : Known w e.id e.tenant) (loyal : l.id = e.id → l.tenant = e.tenant) :
    ∃ d, (w.memory.saveExecution l).executions.get? e.id = some d ∧ d.tenant = e.tenant := by
  obtain ⟨d, stored, mine⟩ := h
  by_cases same : e.id = l.id
  · cases finished : d.isFinished with
    | true =>
        rw [Memory.saveExecution_of_finished (same ▸ stored) finished]
        exact ⟨d, stored, mine⟩
    | false =>
        rw [Memory.get?_saveExecution (unfinished_before stored finished same.symm), if_pos same]
        exact ⟨l, rfl, loyal same.symm⟩
  · rw [Memory.get?_saveExecution_of_ne same]
    exact ⟨d, stored, mine⟩

theorem Known.mark (h : Known w e.id e.tenant) (id tenant : String) (finish : Moment) :
    ∃ d, (w.memory.markCancelled id tenant finish).2.executions.get? e.id = some d ∧
      d.tenant = e.tenant := by
  obtain ⟨d, stored, mine⟩ := h
  obtain same | ⟨d', stored', -, -, changed⟩ := w.memory.markCancelled_cases id tenant finish
  · rw [same]
    exact ⟨d, stored, mine⟩
  · rw [changed]
    by_cases here : e.id = id
    · subst here
      cases stored.symm.trans stored'
      exact ⟨_, (Keyed.get?_put ..).trans (if_pos rfl), mine⟩
    · exact ⟨d, ((Keyed.get?_put ..).trans (if_neg here)).trans stored, mine⟩

theorem Known.store (h : Known w e.id e.tenant) (o : Chance) {c : Store.Call} (loyal : Loyal e c) :
    Known (w.perform o (.store c)).2 e.id e.tenant := by
  unfold World.perform
  dsimp only
  split
  · exact h
  cases c with
  | saveExecution l => exact h.save loyal
  | markCancelled id tenant finish => exact h.mark id tenant finish
  | _ =>
      obtain ⟨d, stored, mine⟩ := h
      refine ⟨d, ?_, mine⟩
      rw [World.record?, Memory.executions_reply rfl]
      exact stored

/-- What a run has done to the record and to the registry by its calls so far. -/
structure Watch (w : World) (e : Execution) (k : Ticket) (p : List Exchange) : Prop where
  known : Known w e.id e.tenant
  closed : ∀ d, Ending e d → saving d (.ok ()) ∈ p → Closed w e.id
  ticket : ¬ Released e p → w.ticket? e.id = some k
  ended : w.runs.isFinished k = true → Released e p

theorem Watch.store (h : Watch w e k p) (o : Chance) {c : Store.Call} (loyal : Loyal e c)
    {p' : List Exchange} (more : Released e p → Released e p')
    (closed : ∀ d, Ending e d → saving d (.ok ()) ∈ p' → Closed (w.perform o (.store c)).2 e.id) :
    Watch (w.perform o (.store c)).2 e k p' where
  known := h.known.store o loyal
  closed := closed
  ticket := by
    intro unreleased
    rw [World.ticket?, runs_store]
    exact h.ticket fun released => unreleased (more released)
  ended := by
    rw [runs_store]
    exact fun finished => more (h.ended finished)

theorem Watch.inquired (h : Watch w e k p) (o : Chance) {c : Call}
    (inquires : Inquires tenant e.id c) : Watch (w.perform o c).2 e k p := by
  have stays (c : Call) : ∀ d, Ending e d → saving d (.ok ()) ∈ p →
      Closed (w.perform o c).2 e.id :=
    fun d ending saved => (h.closed d ending saved).perform o c
  cases inquires with
  | read => exact h.store o (by exact trivial) id (stays _)
  | mark finish => exact h.store o (by exact trivial) id (stays _)
  | await | date => exact h
  | ask =>
      refine { h with ticket := fun unreleased => ?_, ended := fun finished => ?_ }
      · exact Runs.ticket?_requestCancel.trans (h.ticket unreleased)
      · exact h.ended (isFinished_requestCancel.symm.trans finished)

theorem closed_of_saved (known : Known w e.id e.tenant) (ending : Ending e d)
    (saved : (w.perform o (.store (.saveExecution d))).1 = .ok ()) :
    Closed (w.perform o (.store (.saveExecution d))).2 e.id := by
  unfold World.perform at saved ⊢
  dsimp only at saved ⊢
  split at saved
  · cases saved
  · obtain ⟨l, stored, -⟩ := known
    cases finished : l.isFinished with
    | true =>
        refine ⟨l, ?_, finished⟩
        exact Memory.get?_reply_of_finished stored finished
    | false =>
        have before := unfinished_before stored finished ending.id
        exact ⟨d, (Memory.get?_saveExecution before).trans (if_pos ending.id.symm), ending.finished⟩

theorem Watch.undertaken (h : Watch w e k p) (o : Chance) {c : Call}
    (undertakes : Undertakes e c) :
    Watch (w.perform o c).2 e k (p ++ [⟨c, (w.perform o c).1⟩]) := by
  have more (released : Released e p) := released.mono [⟨c, (w.perform o c).1⟩]
  have closed (d : Execution) (ending : Ending e d)
      (saved : saving d (.ok ()) ∈ p ++ [⟨c, (w.perform o c).1⟩]) :
      Closed (w.perform o c).2 e.id := by
    obtain earlier | now := List.mem_append.mp saved
    · exact (h.closed d ending earlier).perform o c
    · have same := List.mem_singleton.mp now
      obtain rfl : .store (.saveExecution d) = c := congrArg Sigma.fst same
      exact closed_of_saved h.known ending (eq_of_heq (Sigma.mk.inj same).2).symm
  have idle (runs : (w.perform o c).2.runs = w.runs)
      (memory : (w.perform o c).2.memory = w.memory) :
      Watch (w.perform o c).2 e k (p ++ [⟨c, (w.perform o c).1⟩]) := by
    refine ⟨?_, closed, fun unreleased => ?_, fun finished => ?_⟩
    · rw [Known, World.record?, memory]
      exact h.known
    · rw [World.ticket?, runs]
      exact h.ticket fun released => unreleased (more released)
    · rw [runs] at finished
      exact more (h.ended finished)
  cases undertakes with
  | attach =>
      by_cases released : Released e p
      · exact ⟨h.known, closed, fun unreleased => absurd (more released) unreleased,
          fun _ => more released⟩
      · exact idle (congrArg Prod.snd (Runs.attach_of_some (h.ticket released))) rfl
  | work working =>
      cases working with
      | saved steps => exact h.store o (by exact fun _ => steps.tenant) more closed
      | drawn | timed | told | invoked | polled => exact idle rfl rfl
  | finish ending => exact h.store o (by exact fun _ => ending.tenant) more closed
  | count => exact h.store o (by exact trivial) more closed
  | release j =>
      have released : Released e (p ++ [⟨.release e.id j, ()⟩]) :=
        ⟨j, List.mem_append_right _ (.head _)⟩
      exact ⟨h.known, closed, fun unreleased => absurd released unreleased, fun _ => released⟩
  | leave => exact idle rfl rfl

/-- A store may fail, but not with a refusal. -/
def Chance.Honest (o : Chance) : Prop := ∀ f, o.outage = some f → ¬ Refuses f

/-- What a cancellation is told is so, if it has waited for the run where it had to. -/
theorem attests_perform (h : Watch w e k p) (honest : o.Honest) {c : Call}
    (inquires : Inquires tenant e.id c)
    (waited : c = .awaitFinished e.id → Released e p) :
    Attests tenant e (Closed (w.perform o c).2 e.id) (Released e p) ⟨c, (w.perform o c).1⟩ := by
  obtain ⟨d, stored, mine⟩ := h.known
  cases inquires with
  | ask | date => trivial
  | await => exact waited rfl
  | read =>
      unfold World.perform
      dsimp only
      split
      · next f failed => exact honest f failed
      show Attests tenant e _ _
        ⟨.store (.getExecution e.id tenant), .ok (w.memory.execution? e.id tenant)⟩
      cases found : w.memory.execution? e.id tenant with
      | none => trivial
      | some d' =>
          obtain ⟨stored', mine'⟩ := Memory.execution?_eq_some.mp found
          cases stored.symm.trans stored'
          exact ⟨mine'.symm.trans mine, fun finished => ⟨d, stored, finished⟩⟩
  | mark finish =>
      unfold World.perform
      dsimp only
      split
      · next f failed => exact honest f failed
      show Attests tenant e
        (Closed { w with memory := (w.memory.markCancelled e.id tenant finish).2 } e.id) _
        ⟨.store (.markCancelled e.id tenant finish),
          .ok (w.memory.markCancelled e.id tenant finish).1⟩
      cases finished : d.isFinished with
      | true =>
          rw [Memory.markCancelled_of_finished stored finished]
          exact fun _ => ⟨d, stored, finished⟩
      | false =>
          obtain missed | ⟨_, _, _, _, marked⟩ := w.memory.markCancelled_cases e.id tenant finish
          · have other (own : tenant = e.tenant) :
                Closed { w with memory := (w.memory.markCancelled e.id tenant finish).2 } e.id := by
              rw [Memory.markCancelled_of_running stored (mine.trans own.symm) finished] at missed
              cases missed
            rw [missed] at other ⊢
            exact other
          · rw [marked]
            trivial

structure Canceller (w : World) (e : Execution) (k : Ticket) (p : List Exchange) (t : Task) :
    Prop where
  continues : t.Continues
  attests : ∃ tenant, t.job = .operation (.cancelExecution tenant e.id) ∧
    ∀ x ∈ t.past, Attests tenant e (Closed w e.id) (Released e p) x
  waits : ∀ wait, t.waiting = some wait → wait = .finished k ∨ Released e p

theorem Canceller.mono {task : Task} {w' : World} {p' : List Exchange}
    (h : Canceller w e k p task) (close : Closed w e.id → Closed w' e.id)
    (release : Released e p → Released e p') : Canceller w' e k p' task where
  continues := h.continues
  attests := by
    obtain ⟨tenant, job, attests⟩ := h.attests
    exact ⟨tenant, job, fun x hx => (attests x hx).mono close release⟩
  waits wait waiting := (h.waits wait waiting).imp_right release

theorem canceller_start (tenant : String) :
    Canceller w e k p (.start (.operation (.cancelExecution tenant e.id))) where
  continues := Task.continues_start _
  attests := ⟨tenant, rfl, List.forall_mem_nil _⟩
  waits _ waiting := by
    rw [Task.start] at waiting
    cases waiting

theorem inquires_next {job : Job} {past : List Exchange} {c : Call}
    {next : Reply c → Work (Except Failure job.Given)} {waiting : Option Wait}
    (h : Task.Continues ⟨job, past, .call c next, waiting⟩)
    (cancels : job = .operation (.cancelExecution tenant id)) : Inquires tenant id c := by
  subst cancels
  exact h.next_call fun t a ends => (cancelling_of_ends ends).inquires

theorem undertakes_next {job : Job} {past : List Exchange} {c : Call}
    {next : Reply c → Work (Except Failure job.Given)} {waiting : Option Wait}
    (h : Task.Continues ⟨job, past, .call c next, waiting⟩) (runs : job = .run v e) :
    Undertakes e c := by
  subst runs
  exact h.next_call fun t a ends => undertakes_of_ends ends

theorem Canceller.goes {task task' : Task} {w' : World} {new : List Task}
    (h : Canceller w e k p task) (watch : Watch w e k p) (honest : o.Honest)
    (goes : Goes w o task task' w' new) :
    Canceller w' e k p task' ∧ Watch w' e k p ∧ new = [] ∧ (Closed w e.id → Closed w' e.id) := by
  obtain ⟨tenant, job, attests⟩ := h.attests
  cases goes with
  | @waits job past c next wait long =>
      refine ⟨⟨h.continues, ⟨tenant, job, attests⟩, ?_⟩, watch, rfl, id⟩
      intro wait' waiting
      cases waiting
      have inquires := inquires_next h.continues job
      cases inquires with
      | await =>
          by_cases released : Released e p
          · exact .inr released
          · left
            have long : (w.ticket? e.id).map Wait.finished = some wait := long
            rw [watch.ticket released] at long
            exact (Option.some.inj long).symm
      | _ => cases long
  | @answered job past c next waiting ready =>
      have inquires := inquires_next h.continues job
      have waited (await : c = .awaitFinished e.id) : Released e p := by
        subst await
        cases waiting with
        | none =>
            by_contra unreleased
            have short : (w.ticket? e.id).map Wait.finished = none := ready
            rw [watch.ticket unreleased] at short
            cases short
        | some wait =>
            obtain rfl | released := h.waits wait rfl
            · exact watch.ended ready
            · exact released
      have close (closed : Closed w e.id) := closed.perform o c
      refine ⟨⟨Task.continues_answered h.continues, ⟨tenant, job, ?_⟩, nofun⟩,
        watch.inquired o inquires, ?_, close⟩
      · rw [List.forall_mem_append, List.forall_mem_singleton]
        exact ⟨fun x hx => (attests x hx).mono close id,
          attests_perform watch honest inquires waited⟩
      · cases inquires <;> rfl

/-- A run and the cancellations of its record. -/
structure Watched (v : Workflow) (e : Execution) (k : Ticket) (s : State) (run : Task)
    (cancels : List Task) : Prop where
  tasks : s.tasks = run :: cancels
  job : run.job = .run v e
  continues : run.Continues
  watch : Watch s.world e k run.past
  cancellers : ∀ t ∈ cancels, Canceller s.world e k run.past t

/-- A request to cancel this execution, or a call of any task, where the store may be out of
order. -/
def Presses (id : String) : Move → Prop
  | .submit (.cancelExecution _ other) => other = id
  | .submit _ => False
  | .go _ o => o.Honest

variable {s s' : State} {run run' task task' : Task} {cancels new : List Task} {m : Move}

theorem Watched.joined (h : Watched v e k s run cancels) (tenant : String) :
    Watched v e k
      { s with tasks := s.tasks ++ [.start (.operation (.cancelExecution tenant e.id))] }
      run (cancels ++ [.start (.operation (.cancelExecution tenant e.id))]) where
  tasks := congrArg (· ++ _) h.tasks
  job := h.job
  continues := h.continues
  watch := h.watch
  cancellers := by
    rw [List.forall_mem_append, List.forall_mem_singleton]
    exact ⟨h.cancellers, canceller_start tenant⟩

theorem Watched.ran (h : Watched v e k s run cancels) (goes : Goes s.world o run run' s'.world new)
    (tasks : s'.tasks = run' :: cancels ++ new) : Watched v e k s' run' cancels := by
  obtain ⟨-, job, continues, watch, cancellers⟩ := h
  obtain ⟨w', drawn, all⟩ := s'
  cases goes with
  | waits =>
      rw [List.append_nil] at tasks
      exact ⟨tasks, job, continues, watch, cancellers⟩
  | @answered job past c next waiting ready =>
      have undertakes := undertakes_next continues job
      have none : Task.started c = [] := by
        cases undertakes with
        | work working => cases working <;> rfl
        | _ => rfl
      rw [none, List.append_nil] at tasks
      refine ⟨tasks, job, Task.continues_answered continues, watch.undertaken o undertakes, ?_⟩
      intro t ht
      exact (cancellers t ht).mono (·.perform o c) (·.mono _)

theorem Watched.cancelled {i : Nat} (h : Watched v e k s run cancels) (honest : o.Honest)
    (found : cancels[i]? = some task) (goes : Goes s.world o task task' s'.world new)
    (tasks : s'.tasks = run :: cancels.set i task' ++ new) :
    Watched v e k s' run (cancels.set i task') := by
  obtain ⟨canceller, watch, rfl, close⟩ :=
    (h.cancellers task (List.mem_of_getElem? found)).goes h.watch honest goes
  rw [List.append_nil] at tasks
  refine ⟨tasks, h.job, h.continues, watch, fun t ht => ?_⟩
  obtain ht | rfl := List.mem_or_eq_of_mem_set ht
  · exact (h.cancellers t ht).mono close id
  · exact canceller

theorem Watched.move (h : Watched v e k s run cancels) (presses : Presses e.id m)
    (moved : s.move m = some s') : ∃ run' cancels', Watched v e k s' run' cancels' := by
  cases m with
  | submit op =>
      cases op with
      | cancelExecution tenant id =>
          obtain rfl : id = e.id := presses
          cases moved
          exact ⟨run, _, h.joined tenant⟩
      | _ => exact presses.elim
  | go i o =>
      obtain ⟨task, task', new, turns⟩ := State.turns_of_move moved
      have found := turns.found
      have tasks := turns.tasks
      rw [h.tasks] at found tasks
      cases i with
      | zero =>
          obtain rfl : run = task := Option.some.inj found
          exact ⟨task', cancels, h.ran turns.goes tasks⟩
      | succ i => exact ⟨run, _, h.cancelled presses found turns.goes tasks⟩

/-- An execution whose record is stored and whose run is registered and about to begin. -/
structure Begins (w : World) (v : Workflow) (e : Execution) (k : Ticket) : Prop
    extends Prepared v e where
  stored : w.record? e.id = some e
  registered : w.ticket? e.id = some k
  unfinished : w.runs.isFinished k = false

def beginning (w : World) (v : Workflow) (e : Execution) : State := ⟨w, [], [.start (.run v e)]⟩

theorem Begins.watched (h : Begins w v e k) :
    Watched v e k (Server.beginning w v e) (.start (.run v e)) [] where
  tasks := rfl
  job := rfl
  continues := Task.continues_start _
  watch :=
    { known := ⟨e, h.stored, rfl⟩
      closed := fun _ _ => nofun
      ticket := fun _ => h.registered
      ended := fun finished => by
        have unfinished : w.runs.isFinished k = false := h.unfinished
        cases unfinished.symm.trans finished }
  cancellers := List.forall_mem_nil _

theorem Watched.outcome (h : Watched v e k s run cancels) (prepared : Prepared v e)
    (released : Released e run.past) : Closed s.world e.id ∨ Fails v e run.past := by
  obtain ⟨job, past, rest, waiting⟩ := run
  obtain rfl : job = .run v e := h.job
  obtain ⟨_, a, ends⟩ := exists_ends rest
  obtain ⟨d, ending, saved⟩ | fails := ended_or_fails prepared (h.continues _ a ends) released
  · exact .inl (h.watch.closed d ending saved)
  · exact .inr fails

theorem Watched.refused (h : Watched v e k s run cancels)
    (gives : s.Gives (.operation (.cancelExecution tenant e.id)) (.error f)) (refuses : Refuses f) :
    Closed s.world e.id ∨ Released e run.past := by
  obtain ⟨past, waiting, there⟩ := gives
  rw [h.tasks] at there
  obtain rfl | there := List.mem_cons.mp there
  · cases h.job
  · obtain ⟨continues, ⟨_, job, attests⟩, -⟩ := h.cancellers _ there
    cases job
    have ends := continues [] _ (.done _)
    rw [List.append_nil] at ends
    exact (cancelling_of_ends ends).of_refused refuses attests

/-- However a run and requests to cancel it come in between each other, and whatever the store fails
to save, a request is refused only when the store shows the record as finished, unless a save of
the run failed or a condition raised in it. -/
theorem refused_unless_failed {moves : List Move} (begins : Begins w v e k)
    (presses : ∀ m ∈ moves, Presses e.id m)
    (moved : (Server.beginning w v e).follow moves = some s)
    (gives : s.Gives (.operation (.cancelExecution tenant e.id)) (.error f)) (refuses : Refuses f) :
    (∃ d, s.world.record? e.id = some d ∧ d.isFinished = true) ∨
      ∃ t ∈ s.tasks, t.job = .run v e ∧ Fails v e t.past := by
  obtain ⟨run, cancels, watched⟩ := State.follow_preserves
    (P := fun s => ∃ run cancels, Watched v e k s run cancels) moved presses
    ⟨_, _, begins.watched⟩ fun presses moved ⟨_, _, watched⟩ => watched.move presses moved
  obtain closed | released := watched.refused gives refuses
  · exact .inl closed
  obtain closed | fails := watched.outcome begins.toPrepared released
  · exact .inl closed
  · exact .inr ⟨run, watched.tasks ▸ List.mem_cons_self, watched.job, fails⟩

end Watching

section Sample

theorem presses_turns (i first n : Nat) : ∀ m ∈ turns i first n, Presses id m := by
  intro m hm
  obtain ⟨j, -, rfl⟩ := List.mem_map.mp hm
  exact nofun

def Task.refusal? : Task → Option (String × String × EngineError)
  | ⟨.operation (.cancelExecution tenant id), _, .done (.error (.engine err)), _⟩ =>
    some (tenant, id, err)
  | _ => none

theorem gives_of_refusal {s : State} {err : EngineError}
    (h : s.tasks.filterMap Task.refusal? = [(tenant, id, err)]) :
    s.Gives (.operation (.cancelExecution tenant id)) (.error (.engine err)) := by
  have there : (tenant, id, err) ∈ s.tasks.filterMap Task.refusal? := by
    rw [h]
    exact List.mem_cons_self
  obtain ⟨task, ht, refused⟩ := List.mem_filterMap.mp there
  unfold Task.refusal? at refused
  split at refused
  · cases refused
    exact ⟨_, _, ht⟩
  · cases refused

/-- The store keeps the sample and its record, and the run is registered. -/
def sampleWorld : World :=
  ⟨⟨[("sample", sample)], [("", sampleRecord)]⟩, (Runs.empty.register "").2, []⟩

theorem sample_begins : Begins sampleWorld sample sampleRecord 0 where
  toPrepared := prepared_of_ends sample_prepared
  stored := rfl
  registered := rfl
  unfinished := rfl

/-- A request after the last look for one: the run goes to its end, and the request is refused. -/
def lateMoves : List Move :=
  turns 0 0 34 ++ .submit (.cancelExecution "tenant" "") :: turns 1 34 3 ++ turns 0 37 6 ++
  turns 1 43 2

theorem presses_late : ∀ m ∈ lateMoves, Presses "" m := by
  simp only [lateMoves, List.forall_mem_append, List.forall_mem_cons]
  exact ⟨⟨⟨presses_turns _ _ _, rfl, presses_turns _ _ _⟩, presses_turns _ _ _⟩,
    presses_turns _ _ _⟩

theorem sample_refused : ∃ (s : State) (err : EngineError),
    Begins sampleWorld sample sampleRecord 0 ∧ (∀ m ∈ lateMoves, Presses "" m) ∧
    (Server.beginning sampleWorld sample sampleRecord).follow lateMoves = some s ∧
    s.Gives (.operation (.cancelExecution "tenant" "")) (.error (.engine err)) ∧
    Refuses (.engine err) ∧
    ((∃ d, s.world.record? "" = some d ∧ d.isFinished = true) ∨
      ∃ t ∈ s.tasks, t.job = .run sample sampleRecord ∧ Fails sample sampleRecord t.past) := by
  obtain ⟨s, moved, refused⟩ := Option.map_eq_some_iff.mp
    (show ((Server.beginning sampleWorld sample sampleRecord).follow lateMoves).map
      (·.tasks.filterMap Task.refusal?) =
        some [("tenant", "", .executionNotRunning (some "completed") "sample")] by decide +kernel)
  have gives := gives_of_refusal refused
  exact ⟨s, _, sample_begins, presses_late, moved, gives, rfl,
    refused_unless_failed sample_begins presses_late moved gives rfl⟩

/-- The same, but the store fails when the run is to store its end. -/
def unsavedMoves : List Move :=
  turns 0 0 34 ++ .submit (.cancelExecution "tenant" "") :: turns 1 34 3 ++ turns 0 37 1 ++
  .go 0 ⟨.utc 0, "38", .ok (.obj []), .ok (), some (.external "RuntimeError" "store down")⟩ ::
  turns 0 39 2 ++ turns 1 41 2

/-- A request is refused, since the execution is not running, while the store shows it as
running. -/
theorem refused_while_running : ∃ (s : State) (err : EngineError) (d : Execution),
    Begins sampleWorld sample sampleRecord 0 ∧ (∀ m ∈ unsavedMoves, Presses "" m) ∧
    (Server.beginning sampleWorld sample sampleRecord).follow unsavedMoves = some s ∧
    s.Gives (.operation (.cancelExecution "tenant" "")) (.error (.engine err)) ∧
    Refuses (.engine err) ∧ s.world.record? "" = some d ∧ d.status = .running := by
  obtain ⟨s, moved, shown⟩ := Option.map_eq_some_iff.mp
    (show ((Server.beginning sampleWorld sample sampleRecord).follow unsavedMoves).map (fun s =>
      (s.tasks.filterMap Task.refusal?, (s.world.record? "").map (·.status))) =
        some ([("tenant", "", .executionNotRunning (some "running") "sample")], some .running) by
      decide +kernel)
  obtain ⟨refused, recorded⟩ := Prod.mk.inj shown
  obtain ⟨d, stored, running⟩ := Option.map_eq_some_iff.mp recorded
  refine ⟨s, _, d, sample_begins, ?_, moved, gives_of_refusal refused, rfl, stored, running⟩
  simp only [unsavedMoves, List.forall_mem_append, List.forall_mem_cons]
  refine ⟨⟨⟨⟨presses_turns _ _ _, rfl, presses_turns _ _ _⟩, presses_turns _ _ _⟩, ?_,
    presses_turns _ _ _⟩, presses_turns _ _ _⟩
  intro f failed
  cases failed
  exact fun refuses => refuses

end Sample

end TriggerFlow.Server
