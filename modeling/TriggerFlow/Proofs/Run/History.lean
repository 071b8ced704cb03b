import TriggerFlow.Proofs.Run.Raising
import TriggerFlow.Proofs.Run.Suspension

/-!
The history of a run in the store: the records that it hands over to be saved, from its preparation
to its end. Each of them has one step more than the one before, or the same steps with the last one
over; what is dispatched was saved as running before; and the last record alone is finished.
-/

namespace TriggerFlow

/-- A step that leaves nothing to be done and let the walk go on. -/
def Step.Done (s : Step) : Prop := s.status = .success ∨ s.status = .skipped

theorem Step.Done.status_ne {s : Step} {status : StepStatus} (h : s.Done)
    (unsuccessful : status ≠ .success) (unskipped : status ≠ .skipped) : s.status ≠ status := by
  rintro rfl
  exact h.elim unsuccessful unskipped

namespace Engine

open Program

variable {w : Workflow} {ticket : Ticket} {e l d k : Execution} {u v : List Event}
  {t t₁ t₂ : List Exchange} {ls ms : List Execution} {n : Node} {context : Fields}

/-- How a saved record follows on the one saved before it: all steps of that one are done and there
is a new one, or its last step was running and is over now. -/
inductive Advances : Execution → Execution → Prop
  | begun {l : Execution} {s : Step} (done : ∀ x ∈ l.steps, x.Done)
      (status : s.status = .running ∨ s.status = .skipped) : Advances l (l.addStep s)
  | settled {l : Execution} {s s' : Step} (done : ∀ x ∈ l.steps, x.Done)
      (running : s.status = .running) (status : s'.status = .success ∨ s'.status = .failed)
      (same : (s'.id, s'.node, s'.nodeName, s'.start) = (s.id, s.node, s.nodeName, s.start)) :
      Advances (l.addStep s) (l.addStep s')

/-- `History l ls k`: from the record `l` on, the records `ls` are saved, of which `k` is the last
one. -/
inductive History : Execution → List Execution → Execution → Prop
  | nil (l : Execution) : History l [] l
  | cons {l d k : Execution} {ls : List Execution} (step : Advances l d) (rest : History d ls k) :
      History l (d :: ls) k

/-- Steps as a saved record has them: none is pending, and all but the last one are done. -/
structure Shaped (steps : List Step) : Prop where
  begun : ∀ s ∈ steps, s.status ≠ .pending
  done : ∀ s ∈ steps.dropLast, s.Done

theorem shaped_addStep {s : Step} (done : ∀ x ∈ l.steps, x.Done) (begun : s.status ≠ .pending) :
    Shaped (l.addStep s).steps where
  begun := by
    rw [Execution.addStep, List.forall_mem_append, List.forall_mem_singleton]
    exact ⟨fun x hx => (done x hx).status_ne (by decide) (by decide), begun⟩
  done := by
    rw [Execution.addStep, List.dropLast_concat]
    exact done

theorem Advances.shaped (h : Advances l d) : Shaped d.steps := by
  cases h with
  | begun done status =>
      refine shaped_addStep done ?_
      intro pending
      obtain running | skipped := status
      · cases pending.symm.trans running
      · cases pending.symm.trans skipped
  | settled done _ status _ =>
      refine shaped_addStep done ?_
      intro pending
      obtain success | failed := status
      · cases pending.symm.trans success
      · cases pending.symm.trans failed

theorem Advances.onlySteps (h : Advances l d) (steps : OnlySteps e l) : OnlySteps e d := by
  cases h with
  | begun => exact onlySteps_addStep steps _
  | settled =>
      -- dropping the last step again changes nothing but the steps either
      rw [OnlySteps] at steps ⊢
      rw [Execution.addStep] at steps ⊢
      cases e
      cases steps
      rfl

namespace History

theorem append (h : History e ls l) (rest : History l ms k) : History e (ls ++ ms) k := by
  induction h with
  | nil => exact rest
  | cons step _ ih => exact .cons step (ih rest)

theorem onlySteps (h : History l ls k) (steps : OnlySteps e l) : ∀ d ∈ ls, OnlySteps e d := by
  induction h with
  | nil => exact List.forall_mem_nil _
  | cons step _ ih =>
      rw [List.forall_mem_cons]
      exact ⟨step.onlySteps steps, ih (step.onlySteps steps)⟩

theorem mem (h : History e ls l) : l ∈ e :: ls := by
  induction h with
  | nil => exact List.mem_cons_self
  | cons _ _ ih => exact .tail _ ih

theorem shaped (h : History e ls l) : ∀ d ∈ ls, Shaped d.steps := by
  induction h with
  | nil => exact List.forall_mem_nil _
  | cons step _ ih =>
      rw [List.forall_mem_cons]
      exact ⟨step.shaped, ih⟩

end History

/-- Every call of the dispatcher is made for the node whose step is the last one of the record that
was saved last, and running there. -/
def WrittenAhead (w : Workflow) (t : List Exchange) : Prop :=
  ∀ a config context reply before after,
    t = before ++ ⟨.invoke a config context, reply⟩ :: after →
      ∃ l s n, (savings before).getLast? = some l ∧ l.steps.getLast? = some s ∧
        s.status = .running ∧ w.node? s.node = some n ∧ n.kind = .action a ∧ n.config = config

theorem writtenAhead_of_undispatched (none : invocations t = []) : WrittenAhead w t := by
  rintro a config context reply before after rfl
  have called : (⟨.invoke a config context, reply⟩ : Exchange) ∈
      invocations (before ++ ⟨.invoke a config context, reply⟩ :: after) :=
    List.mem_filter.mpr ⟨List.mem_append_right _ List.mem_cons_self, rfl⟩
  rw [none] at called
  cases called

theorem WrittenAhead.append (h₁ : WrittenAhead w t₁) (h₂ : WrittenAhead w t₂) :
    WrittenAhead w (t₁ ++ t₂) := by
  intro a config context reply before after cut
  obtain ⟨after, rfl, -⟩ | ⟨before, rfl, rfl⟩ := cut_append cut
  · exact h₁ _ _ _ _ _ _ rfl
  · obtain ⟨l, s, n, saved, rest⟩ := h₂ _ _ _ _ _ _ rfl
    refine ⟨l, s, n, ?_, rest⟩
    rw [savings_append, List.getLast?_append, saved]
    rfl

theorem WrittenAhead.cons {x : Exchange} (none : isInvocation x = false) (h : WrittenAhead w t) :
    WrittenAhead w (x :: t) := by
  have first : WrittenAhead w [x] :=
    writtenAhead_of_undispatched (List.filter_eq_nil_iff.mpr (by simp [none]))
  exact first.append h

/-- The work of a visited node is dispatched after its step was saved as running. -/
theorem writtenAhead_visit {fresh : String} {start : Moment} {told : Except Failure Unit}
    {p : Except Failure Fields} (known : ∀ a, n.kind = .action a → w.node? n.id = some n)
    (work : (perform n context).Ends t p) (none : invocations t₂ = []) :
    WrittenAhead w (beginning l n fresh start told ++ t ++ t₂) := by
  refine .append ?_ (writtenAhead_of_undispatched none)
  have work := ends_perform.mp work
  split at work
  · obtain ⟨rfl, -⟩ := work
    exact writtenAhead_of_undispatched rfl
  next action kind =>
  obtain ⟨given, rfl, -⟩ := work
  intro a config context reply before after cut
  obtain ⟨after, early, -⟩ | ⟨before, rfl, one⟩ := cut_append cut
  · have none : invocations (beginning l n fresh start told) = [] := rfl
    exact writtenAhead_of_undispatched none _ _ _ _ _ _ early
  · cases before with
    | nil =>
        obtain ⟨same, -⟩ := List.cons.inj one
        cases same
        exact ⟨l.addStep (runningStep n (stepName fresh) start), _, n, rfl, List.getLast?_concat,
          rfl, known action kind, kind, rfl⟩
    | cons y before =>
        obtain ⟨-, rest⟩ := List.cons.inj one
        simp at rest

theorem Visits.writtenAhead {r : Except (Execution × Stop) (Execution × Visit)}
    (h : Visits w l n context t r) (known : ∀ a, n.kind = .action a → w.node? n.id = some n) :
    WrittenAhead w t := by
  cases h with
  | unbegun => exact writtenAhead_of_undispatched rfl
  | failed _ _ _ _ _ work | failedUnsaved _ _ _ _ _ work | succeeded _ _ _ _ _ work
  | succeededUnsaved _ _ _ _ _ work => exact writtenAhead_visit known work rfl

/-- The failure with which the store refused what it was asked to do. -/
def refusal? : Exchange → Option Failure
  | ⟨.store _, .error f⟩ => some f
  | _ => none

theorem stored_iff : Stored t ↔ t.filterMap refusal? = [] := by
  rw [List.filterMap_eq_nil_iff]
  constructor
  · rintro stored ⟨c, reply⟩ hx
    cases c with
    | store c =>
        cases reply with
        | ok _ => rfl
        | error f => exact absurd hx (stored c f)
    | _ => rfl
  · intro none c f hx
    cases none _ hx

theorem stored_polling {requested : Bool} : Stored (polling ticket requested :: t) ↔ Stored t := by
  rw [stored_iff, stored_iff]
  exact Iff.rfl

theorem stored_perform {p : Except Failure Fields} (h : (perform n context).Ends t p) :
    Stored t := by
  rw [stored_iff]
  obtain rfl | ⟨_, _, _, _, rfl⟩ := eq_of_perform h
  · rfl
  · rfl

/-- A visit saves what it has to save if that is so of its end. -/
theorem stored_visit {fresh : String} {start : Moment} {told : Except Failure Unit}
    {p : Except Failure Fields} (work : (perform n context).Ends t p) (rest : Stored t₂) :
    Stored (beginning l n fresh start told ++ t ++ t₂) := by
  have begun : Stored (beginning l n fresh start told) := stored_iff.mpr rfl
  rw [stored_append, stored_append]
  exact ⟨⟨begun, stored_perform work⟩, rest⟩

theorem Visits.stored {o : Visit} (h : Visits w l n context t (.ok (d, o))) : Stored t := by
  cases h with
  | succeeded fresh start finish told reply work =>
      exact stored_visit work (stored_iff.mpr rfl)

theorem Skips.stored {c : Connection} (h : Skips w l c t (d, .ok ())) : Stored t := by
  cases h with
  | saved time fresh reply => exact stored_iff.mpr rfl

theorem savings_visit {fresh : String} {start : Moment} {told : Except Failure Unit}
    {p : Except Failure Fields} (work : (perform n context).Ends t p) :
    savings (beginning l n fresh start told ++ t ++ t₂) =
      l.addStep (runningStep n (stepName fresh) start) :: savings t₂ := by
  rw [savings_append, savings_append, savings_perform work]
  rfl

theorem Visits.history {r : Except (Execution × Stop) (Execution × Visit)}
    (h : Visits w l n context t r) (stored : Stored t) (done : ∀ x ∈ l.steps, x.Done) :
    History l (savings t) (visited r) := by
  cases h with
  | unbegun => exact absurd stored (not_stored (.tail _ (.tail _ (.head _))))
  | failedUnsaved | succeededUnsaved =>
      exact absurd stored (not_stored (List.mem_append_right _ (.tail _ (.head _))))
  | failed fresh start finish told reply work =>
      rw [savings_visit work]
      exact .cons (.begun done (.inl rfl)) (.cons (.settled done rfl (.inr rfl) rfl) (.nil _))
  | succeeded fresh start finish told reply work =>
      rw [savings_visit work]
      exact .cons (.begun done (.inl rfl)) (.cons (.settled done rfl (.inl rfl) rfl) (.nil _))

theorem Skips.history {c : Connection} (h : Skips w l c t (d, .ok ()))
    (done : ∀ x ∈ l.steps, x.Done) : History l (savings t) d := by
  cases h with
  | saved time fresh reply => exact .cons (.begun done (.inr rfl)) (.nil _)

theorem done_addStep {s : Step} (done : ∀ x ∈ l.steps, x.Done) (last : s.Done) :
    ∀ x ∈ (l.addStep s).steps, x.Done := by
  rw [Execution.addStep, List.forall_mem_append, List.forall_mem_singleton]
  exact ⟨done, last⟩

/-- What a walk has saved so far, between two turns: its history ends with the record as it is, in
which no step is open. -/
structure Kept (w : Workflow) (e : Execution) (u : List Event) (s : Walk) : Prop where
  stored : Stored (exchanges u)
  history : History e (savings (exchanges u)) s.record
  done : ∀ x ∈ s.record.steps, x.Done
  ahead : WrittenAhead w (exchanges u)

/-- A walk goes on only while the store does what it is asked to do. -/
theorem Turn.stored {s s' : Walk} (h : Turn w ticket s v s') : Stored (exchanges v) := by
  cases h with
  | leave | pass => exact stored_iff.mpr rfl
  | skip no skips =>
      rw [exchanges_looked]
      exact stored_polling.mpr skips.stored
  | enter yes target away fresh visits =>
      rw [exchanges_stepped]
      exact stored_polling.mpr visits.stored

/-- A turn goes on with the record that it has saved. -/
theorem Turn.history {s s' : Walk} (h : Turn w ticket s v s')
    (done : ∀ x ∈ s.record.steps, x.Done) :
    History s.record (savings (exchanges v)) s'.record ∧ ∀ x ∈ s'.record.steps, x.Done := by
  cases h with
  | leave | pass => exact ⟨.nil _, done⟩
  | skip no skips =>
      rw [exchanges_looked, savings_polling]
      refine ⟨skips.history done, ?_⟩
      obtain ⟨id, time, rfl⟩ := skips.record
      exact done_addStep done (.inr rfl)
  | enter yes target away fresh visits =>
      rw [exchanges_stepped, savings_polling]
      refine ⟨visits.history visits.stored done, ?_⟩
      obtain rfl := visits.record
      exact done_addStep done (.inl rfl)

theorem known_of_target {id : String} {m : Node} (target : w.node? id = some m) :
    ∀ a, m.kind = .action a → w.node? m.id = some m := by
  intro a _
  rw [Graph.id_of_node? target, target]

theorem Turn.writtenAhead {s s' : Walk} (h : Turn w ticket s v s') :
    WrittenAhead w (exchanges v) := by
  cases h with
  | leave | pass => exact writtenAhead_of_undispatched rfl
  | skip no skips =>
      rw [exchanges_looked]
      exact .cons rfl (writtenAhead_of_undispatched skips.invocations)
  | enter yes target away fresh visits =>
      rw [exchanges_stepped]
      exact .cons rfl (visits.writtenAhead (known_of_target target))

theorem Kept.turn {s s' : Walk} (h : Kept w e u s) (ht : Turn w ticket s v s') :
    Kept w e (u ++ v) s' := by
  obtain ⟨more, done⟩ := ht.history h.done
  refine ⟨?_, ?_, done, ?_⟩
  · rw [exchanges_append, stored_append]
    exact ⟨h.stored, ht.stored⟩
  · rw [exchanges_append, savings_append]
    exact h.history.append more
  · rw [exchanges_append]
    exact h.ahead.append ht.writtenAhead

theorem Prepared.done (h : Prepared w e) : ∀ x ∈ e.steps, x.Done := by
  rw [h.unstarted]
  exact List.forall_mem_nil _

theorem Kept.first {o : Visit} (done : ∀ x ∈ e.steps, x.Done)
    (visits : Visits w e n context t (.ok (d, o))) (ahead : WrittenAhead w t) :
    Kept w e (.entered n context :: plain t) ⟨d, [Frame.enter w n context o]⟩ where
  stored := by
    rw [exchanges_begun]
    exact visits.stored
  history := by
    rw [exchanges_begun]
    exact visits.history visits.stored done
  done := by
    obtain rfl := visits.record
    exact done_addStep done (.inl rfl)
  ahead := by
    rw [exchanges_begun]
    exact ahead

theorem Halt.writtenAhead {s : Walk} {r : Execution × Option Stop} (h : Halt w ticket s v r) :
    WrittenAhead w (exchanges v) := by
  cases h with
  | finished | cancelled | raised | lost | cycle => exact writtenAhead_of_undispatched rfl
  | unskipped no skips =>
      rw [exchanges_looked]
      exact .cons rfl (writtenAhead_of_undispatched skips.invocations)
  | stopped yes target away fresh visits =>
      rw [exchanges_stepped]
      exact .cons rfl (visits.writtenAhead (known_of_target target))

/-- How a walk leaves the record: with all its steps done, or with the failed step of its last node
after them; of a walk that was aborted nothing is said. -/
inductive Leaves (w : Workflow) : Execution × Option Stop → Prop
  | aborted (l : Execution) (f : Failure) : Leaves w (l, some (.aborted f))
  | finished {l : Execution} (done : ∀ x ∈ l.steps, x.Done) : Leaves w (l, none)
  | cancelled {l : Execution} (done : ∀ x ∈ l.steps, x.Done) :
      Leaves w (l, some (.ended (.cancelled w.id)))
  | cyclic {l : Execution} (done : ∀ x ∈ l.steps, x.Done) (path : List String) :
      Leaves w (l, some (.ended (.cycle path w.id)))
  | broken {l : Execution} {s : Step} {message : String} (done : ∀ x ∈ l.steps, x.Done)
      (status : s.status = .failed) (error : s.error = some message) :
      Leaves w (l.addStep s, some (.ended (.nodeFailed message s.node w.id)))

theorem Visits.leaves {stop : Stop} (h : Visits w l n context t (.error (d, stop)))
    (done : ∀ x ∈ l.steps, x.Done) : Leaves w (d, some stop) := by
  cases h with
  | unbegun | failedUnsaved | succeededUnsaved => exact .aborted _ _
  | failed fresh start finish told reply work =>
      exact .broken (s := failedStep n (stepName fresh) start finish _) done rfl rfl

theorem Halt.leaves {s : Walk} {r : Execution × Option Stop} (h : Halt w ticket s v r)
    (done : ∀ x ∈ s.record.steps, x.Done) : Leaves w r := by
  cases h with
  | finished => exact .finished done
  | cancelled => exact .cancelled done
  | cycle => exact .cyclic done _
  | raised | unskipped | lost => exact .aborted _ _
  | stopped yes target away fresh visits => exact visits.leaves done

theorem Halt.history {s : Walk} {r : Execution × Option Stop} (h : Halt w ticket s v r)
    (stored : Stored (exchanges v)) (done : ∀ x ∈ s.record.steps, x.Done) :
    History s.record (savings (exchanges v)) r.1 := by
  cases h with
  | finished | cancelled | raised | lost | cycle => exact .nil _
  | unskipped no skips =>
      rw [exchanges_looked, stored_polling] at stored
      exact absurd stored skips.not_stored
  | stopped yes target away fresh visits =>
      rw [exchanges_stepped, stored_polling] at stored
      rw [exchanges_stepped, savings_polling]
      exact visits.history stored done

/-- A walk stops in the visit of its first trigger, or halts with all it saved kept. -/
theorem Traverses.kept {r : Execution × Option Stop} (prepared : Prepared w e)
    (h : Traverses w ticket e u r) :
    (∃ n t l stop, Visits w e n e.triggerData t (.error (l, stop)) ∧ WrittenAhead w t ∧
      u = .entered n e.triggerData :: plain t ∧ r = (l, some stop)) ∨
    ∃ u' s v, Kept w e u' s ∧ Halt w ticket s v r ∧ u = u' ++ v := by
  obtain ⟨n, ns, first⟩ := prepared.activatable.trigger
  have undispatched {t : List Exchange} {r : Except (Execution × Stop) (Execution × Visit)}
      (visits : Visits w e n e.triggerData t r) : WrittenAhead w t := by
    refine visits.writtenAhead fun a kind => ?_
    have trigger : n.isTrigger = true :=
      (List.mem_filter.mp (show n ∈ w.triggers from first ▸ List.mem_cons_self)).2
    rw [Node.isTrigger, kind] at trigger
    cases trigger
  obtain ⟨t, l, stop, visits, rfl, rfl⟩ | halted :=
    h.exists_halt (P := Kept w e) prepared first
      (fun visits => .first prepared.done visits (undispatched visits)) Kept.turn
  · exact .inl ⟨n, t, l, stop, visits, undispatched visits, rfl, rfl⟩
  · exact .inr halted

/-- However the store works, a walk that is not aborted leaves all steps done but that of a node
that failed. -/
theorem Traverses.leaves {r : Execution × Option Stop} (prepared : Prepared w e)
    (h : Traverses w ticket e u r) : Leaves w r := by
  obtain ⟨n, t, l, stop, visits, -, -, rfl⟩ | ⟨u', s, v, kept, halt, -⟩ := h.kept prepared
  · exact visits.leaves prepared.done
  · exact halt.leaves kept.done

/-- Whatever a walk saves is its history, and whatever it dispatches was saved before. -/
theorem Traverses.history {r : Execution × Option Stop} (prepared : Prepared w e)
    (h : Traverses w ticket e u r) (stored : Stored (exchanges u)) :
    History e (savings (exchanges u)) r.1 ∧ WrittenAhead w (exchanges u) := by
  obtain ⟨n, t, l, stop, visits, ahead, rfl, rfl⟩ | ⟨u', s, v, kept, halt, rfl⟩ := h.kept prepared
  · rw [exchanges_begun] at stored ⊢
    exact ⟨visits.history stored prepared.done, ahead⟩
  · rw [exchanges_append, stored_append] at stored
    rw [exchanges_append, savings_append]
    exact ⟨kept.history.append (halt.history stored.2 kept.done),
      kept.ahead.append halt.writtenAhead⟩

/-- The walk was ended by an error of this kind. -/
def EndedBy (stop : Option Stop) (kind : ErrorKind) : Prop :=
  ∃ err, stop = some (.ended err) ∧ err.kind = kind

theorem endedBy_ended {err : EngineError} {kind : ErrorKind} :
    EndedBy (some (.ended err)) kind ↔ err.kind = kind := by
  constructor
  · rintro ⟨_, same, rfl⟩
    cases same
    rfl
  · exact fun same => ⟨err, rfl, same⟩

theorem not_endedBy_none {kind : ErrorKind} : ¬ EndedBy none kind := by
  rintro ⟨_, same, -⟩
  cases same

/-- The record at the end of a run whose walk stopped in this way. It has a failed step if its last
node failed, and is failed without one if the walk came to a cycle. -/
structure Final (stop : Option Stop) (d : Execution) : Prop where
  finished : d.isFinished = true
  dated : d.completedAt.isSome = true
  settled : ∀ s ∈ d.steps, s.status ≠ .running
  unflawed : d.error = none ↔ d.status = .completed
  broken : (∃ s, d.steps.getLast? = some s ∧ s.status = .failed) ↔
    ∃ node, EndedBy stop (.nodeFailed node)
  failed : d.status = .failed ↔
    (∃ node, EndedBy stop (.nodeFailed node)) ∨ ∃ path, EndedBy stop (.cycle path)

/-- What no save changes of the record of a run. -/
structure SameRun (e l : Execution) : Prop where
  id : l.id = e.id
  workflow : l.workflow = e.workflow
  tenant : l.tenant = e.tenant
  triggerData : l.triggerData = e.triggerData
  startedAt : l.startedAt = e.startedAt

theorem OnlySteps.sameRun (h : OnlySteps e l) : SameRun e l := by
  rw [OnlySteps] at h
  rw [h]
  exact ⟨rfl, rfl, rfl, rfl, rfl⟩

theorem SameRun.trans (h : SameRun e l) (rest : SameRun l d) : SameRun e d where
  id := rest.id.trans h.id
  workflow := rest.workflow.trans h.workflow
  tenant := rest.tenant.trans h.tenant
  triggerData := rest.triggerData.trans h.triggerData
  startedAt := rest.startedAt.trans h.startedAt

theorem OnlySteps.isFinished (h : OnlySteps e l) : l.isFinished = e.isFinished := by
  rw [Execution.isFinished, Execution.isFinished, h.status]

/-- A record whose steps are all done was not failed by a node. -/
theorem final_of_done {stop : Option Stop} (done : ∀ x ∈ d.steps, x.Done)
    (finished : d.isFinished = true) (dated : d.completedAt.isSome = true)
    (unflawed : d.error = none ↔ d.status = .completed)
    (unbroken : ∀ node, ¬ EndedBy stop (.nodeFailed node))
    (failed : d.status = .failed ↔ ∃ path, EndedBy stop (.cycle path)) : Final stop d where
  finished := finished
  dated := dated
  settled s hs := (done s hs).status_ne nofun nofun
  unflawed := unflawed
  broken := by
    refine iff_of_false ?_ fun ⟨node, broken⟩ => unbroken node broken
    rintro ⟨s, last, status⟩
    have unfailed : s.status ≠ .failed :=
      (done s (List.mem_of_getLast? last)).status_ne nofun nofun
    exact unfailed status
  failed := by
    rw [failed]
    exact ⟨.inr, (·.resolve_left fun ⟨node, broken⟩ => unbroken node broken)⟩

/-- A walk that was not aborted concludes with a final record. -/
theorem Leaves.final {stop : Option Stop} {ended : Execution} (h : Leaves w (l, stop))
    (taken : concluded l stop = .ok ended) (unflawed : l.error = none) (finish : Moment) :
    Final stop { ended with completedAt := some finish } := by
  have finished := concluded_isFinished taken
  cases h with
  | aborted => cases taken
  | finished done =>
      cases taken
      exact final_of_done done finished rfl (iff_of_true unflawed rfl)
        (fun _ => not_endedBy_none) (iff_of_false nofun fun ⟨_, hc⟩ => not_endedBy_none hc)
  | cancelled done =>
      cases taken
      refine final_of_done done finished rfl (iff_of_false nofun nofun) ?_ ?_
      · simp only [endedBy_ended]
        exact nofun
      · simp only [endedBy_ended]
        exact iff_of_false nofun nofun
  | cyclic done path =>
      cases taken
      refine final_of_done done finished rfl (iff_of_false nofun nofun) ?_ ?_
      · simp only [endedBy_ended]
        exact nofun
      · simp only [endedBy_ended]
        exact iff_of_true rfl ⟨path, rfl⟩
  | @broken l s message done status error =>
      cases taken
      have last : (l.addStep s).steps.getLast? = some s := List.getLast?_concat
      refine ⟨finished, rfl, ?_, iff_of_false nofun nofun, ?_, ?_⟩
      · refine List.forall_mem_append.mpr ⟨fun x hx => (done x hx).status_ne nofun nofun, ?_⟩
        rw [List.forall_mem_singleton, status]
        exact nofun
      · simp only [endedBy_ended]
        exact iff_of_true ⟨s, last, status⟩ ⟨s.node, rfl⟩
      · simp only [endedBy_ended]
        exact iff_of_true rfl (.inl ⟨s.node, rfl⟩)

theorem concluded_sameRun {stop : Option Stop} {ended : Execution}
    (h : concluded l stop = .ok ended) : SameRun l ended ∧ ended.steps = l.steps := by
  unfold concluded at h
  split at h <;> cases h <;> exact ⟨⟨rfl, rfl, rfl, rfl, rfl⟩, rfl⟩

theorem Concludes.savings_eq {s : Execution × Option Stop} (h : Concludes w ticket s t (.ok d)) :
    savings t = [d] := by
  cases h with
  | counted | closed => rfl

theorem Prepares.savings_eq {data : Value} (h : Prepares w data t (.ok e)) : savings t = [e] := by
  cases h with
  | registered => rfl

theorem Prepares.invocations_eq {data : Value} {r : Except Failure Execution}
    (h : Prepares w data t r) : invocations t = [] := by
  cases h <;> rfl

/-- What a run hands over to be saved in this exchange, up to its last record. -/
structure Persisted (w : Workflow) (e : Execution) (t : List Exchange) (stop : Option Stop)
    (d : Execution) : Prop where
  history : ∃ ls l, savings t = e :: ls ++ [d] ∧ History e ls l ∧ d.steps = l.steps
  same : ∀ l ∈ savings t, SameRun e l
  shaped : ∀ l ∈ savings t, Shaped l.steps
  unfinished : ∀ l ∈ (savings t).dropLast, l.isFinished = false
  ahead : WrittenAhead w t
  final : Final stop d

theorem Prepared.persisted {stop : Option Stop} (prepared : Prepared w e)
    (saved : savings t = e :: ls ++ [d]) (history : History e ls l) (same : SameRun l d)
    (steps : d.steps = l.steps) (ahead : WrittenAhead w t) (final : Final stop d) :
    Persisted w e t stop d := by
  have changed : ∀ d ∈ e :: ls, OnlySteps e d :=
    List.forall_mem_cons.mpr ⟨onlySteps_refl e, history.onlySteps (onlySteps_refl e)⟩
  have unstarted : Shaped e.steps := by
    rw [prepared.unstarted]
    exact ⟨List.forall_mem_nil _, List.forall_mem_nil _⟩
  have shaped : ∀ d ∈ e :: ls, Shaped d.steps :=
    List.forall_mem_cons.mpr ⟨unstarted, history.shaped⟩
  refine ⟨⟨ls, l, saved, history, steps⟩, ?_, ?_, ?_, ahead, final⟩
  · rw [saved, List.forall_mem_append, List.forall_mem_singleton]
    exact ⟨fun d hd => (changed d hd).sameRun, (changed l history.mem).sameRun.trans same⟩
  · rw [saved, List.forall_mem_append, List.forall_mem_singleton, steps]
    exact ⟨shaped, shaped l history.mem⟩
  · rw [saved, List.dropLast_concat]
    intro d hd
    rw [(changed d hd).isFinished]
    exact Execution.isFinished_eq_false.mpr prepared.running

/-- The history of a run is append-only and written ahead, over a store that saves and unless the
conditions of a connection raise. -/
theorem history_is_append_only {data : Value} {t₀ : List Exchange} {r : Except Failure Execution}
    (accepted : (prepare w data).Ends t₀ (.ok e)) (ran : (run w alone e).Ends t r)
    (stored : Stored (t₀ ++ t)) :
    (∃ f, r = .error f ∧ Raised w e t) ∨ ∃ u l stop d,
      r = .ok d ∧ Course w e u (l, stop) t r ∧ Persisted w e (t₀ ++ t) stop d := by
  have prepared := prepared_of_ends accepted
  have prepares := prepares_of_ends accepted
  rw [stored_append] at stored
  obtain failed | ⟨ticket, u, l, stop, c, ended, finish, traverses, walked, taken, rfl, concludes,
    rfl⟩ := raised_or_concluded prepared ran stored.2
  · exact .inl failed
  obtain ⟨history, ahead⟩ := traverses.history prepared walked
  have whole : savings (t₀ ++ (⟨.attach e.id, ticket⟩ :: exchanges u ++ c)) =
      e :: savings (exchanges u) ++ [{ ended with completedAt := some finish }] := by
    rw [savings_append, savings_append, prepares.savings_eq, concludes.savings_eq]
    rfl
  obtain ⟨same, steps⟩ := concluded_sameRun taken
  have unflawed : l.error = none := traverses.onlySteps.error.trans prepared.unflawed
  refine .inr ⟨u, l, stop, _, rfl, .intro traverses concludes,
    prepared.persisted whole history ?_ steps ?_ ?_⟩
  · exact ⟨same.id, same.workflow, same.tenant, same.triggerData, same.startedAt⟩
  · have quiet : WrittenAhead w c := writtenAhead_of_undispatched concludes.invocations
    have before : WrittenAhead w t₀ := writtenAhead_of_undispatched prepares.invocations_eq
    exact before.append (.append (.cons rfl ahead) quiet)
  · exact (traverses.leaves prepared).final taken unflawed finish

/-- A run of the sample, which skips a connection and dispatches two actions, keeps its history. -/
theorem sample_history : ∃ d stop, (run sample alone sampleRecord).Ends sampleRun (.ok d) ∧
    Persisted sample sampleRecord ((prepare sample .null).exchange calm () ++ sampleRun)
      stop d := by
  obtain ⟨d, ran⟩ := sample_returns
  obtain ⟨f, failed, -⟩ | ⟨u, l, stop, d, given, -, persisted⟩ :=
    history_is_append_only sample_prepared ran sample_stored
  · cases failed
  · rw [given] at ran
    exact ⟨d, stop, ran, persisted⟩

end Engine
end TriggerFlow
