import TriggerFlow.Proofs.Run.Course
import TriggerFlow.Proofs.Run.Registry

/-!
What a run exchanges before its walk and in it. A preparation ends before anything is stored, or
stores a running record and registers its run; a walk asks for ids and the time, saves the record
with its steps changed, tells the listener, dispatches actions and looks for a cancel request, and
does nothing else.
-/

namespace TriggerFlow.Engine

open Program

variable {w : Workflow} {e l : Execution} {ticket : Ticket} {t : List Exchange}

/-- How a preparation can go. -/
inductive Prepares (w : Workflow) (data : Value) :
    List Exchange → Except Failure Execution → Prop
  | refused (f : Failure) : Prepares w data [] (.error f)
  | formless (fresh : String) (f : Failure) : Prepares w data [⟨.freshId, fresh⟩] (.error f)
  | invalid (fresh : String) (start : Moment) (f : Failure) :
      Prepares w data [⟨.freshId, fresh⟩, ⟨.now, start⟩] (.error f)
  | unsaved (fresh : String) (start : Moment) {fields : Fields} {e : Execution}
      (new : newExecution w fields fresh start = .ok e) (f : Failure) :
      Prepares w data [⟨.freshId, fresh⟩, ⟨.now, start⟩, saving e (.error f)]
        (.error (Engine.unsaved e f))
  | registered (fresh : String) (start : Moment) {fields : Fields} {e : Execution}
      (given : Output.fields data = .ok fields) (new : newExecution w fields fresh start = .ok e)
      (active : w.status = .active) (check : w.checkActivation = .ok ()) (ticket : Ticket)
      (told : Except Failure Unit) :
      Prepares w data
        [⟨.freshId, fresh⟩, ⟨.now, start⟩, saving e (.ok ()), ⟨.register e.id, ticket⟩,
          telling e.id "status" [("status", .str e.status.name)] told]
        (.ok e)

theorem prepares_of_ends {data : Value} {r : Except Failure Execution}
    (h : (prepare w data).Ends t r) : Prepares w data t r := by
  unfold prepare at h
  split at h
  · obtain ⟨rfl, rfl⟩ := ends_pure.mp h
    exact .refused _
  next active =>
  split at h
  · obtain ⟨rfl, rfl⟩ := ends_pure.mp h
    exact .refused _
  next check =>
  obtain ⟨(fresh : String), _, h₁, rfl⟩ := ends_ask_andThen.mp h
  split at h₁
  · obtain ⟨rfl, rfl⟩ := ends_pure.mp h₁
    exact .formless fresh _
  next fields given =>
  obtain ⟨(start : Moment), _, h₂, rfl⟩ := ends_ask_andThen.mp h₁
  split at h₂
  · obtain ⟨rfl, rfl⟩ := ends_pure.mp h₂
    exact .invalid fresh start _
  next e new =>
  obtain ⟨_, _, _, hs, h₃, rfl⟩ := ends_andThen.mp h₂
  obtain ⟨reply, rfl, rfl⟩ := ends_save.mp hs
  cases reply with
  | error f =>
      obtain ⟨rfl, rfl⟩ := ends_pure.mp h₃
      exact .unsaved fresh start new f
  | ok _ =>
      obtain ⟨(ticket : Ticket), _, h₄, rfl⟩ := ends_ask_andThen.mp h₃
      obtain ⟨_, _, _, hn, h₅, rfl⟩ := ends_andThen.mp h₄
      obtain ⟨told, rfl⟩ := ends_notify.mp hn
      obtain ⟨rfl, rfl⟩ := ends_pure.mp h₅
      exact .registered fresh start given new (Decidable.not_not.mp active) check ticket told

/-- What a walk of this record exchanges with its surroundings. -/
inductive Working (e : Execution) (ticket : Ticket) : Exchange → Prop
  | drawn (fresh : String) : Working e ticket ⟨.freshId, fresh⟩
  | timed (time : Moment) : Working e ticket ⟨.now, time⟩
  | saved {l : Execution} (steps : OnlySteps e l) (reply : Except Failure Unit) :
      Working e ticket (saving l reply)
  | told (execution event : String) (data : Fields) (reply : Except Failure Unit) :
      Working e ticket (telling execution event data reply)
  | invoked (a : Action) (config : Fields) (context : Value) (reply : Except Failure Value) :
      Working e ticket ⟨.invoke a config context, reply⟩
  | polled (requested : Bool) : Working e ticket (polling ticket requested)

theorem Working.stays {x : Exchange} (h : Working e ticket x) : Runs.Stays x := by
  cases h <;> trivial

theorem Working.isCounting {x : Exchange} (h : Working e ticket x) : isCounting x = false := by
  cases h <;> rfl

theorem working_beginning {n : Node} {fresh : String} {start : Moment} {told : Except Failure Unit}
    (steps : OnlySteps e l) : ∀ x ∈ beginning l n fresh start told, Working e ticket x := by
  simp only [beginning, List.forall_mem_cons]
  exact ⟨.drawn _, .timed _, .saved (onlySteps_addStep steps _) _, .told _ _ _ _,
    List.forall_mem_nil _⟩

theorem working_perform {n : Node} {context : Fields} {r : Except Failure Fields}
    (h : (perform n context).Ends t r) : ∀ x ∈ t, Working e ticket x := by
  obtain rfl | ⟨_, _, _, _, rfl⟩ := eq_of_perform h
  · exact List.forall_mem_nil _
  · rw [List.forall_mem_singleton]
    exact .invoked _ _ _ _

theorem Visits.working {n : Node} {context : Fields}
    {r : Except (Execution × Stop) (Execution × Visit)} (h : Visits w l n context t r)
    (steps : OnlySteps e l) : ∀ x ∈ t, Working e ticket x := by
  have saved (s : Step) (reply : Except Failure Unit) :
      Working e ticket (saving (l.addStep s) reply) := .saved (onlySteps_addStep steps s) reply
  cases h with
  | unbegun =>
      simp only [List.forall_mem_cons]
      exact ⟨.drawn _, .timed _, saved _ _, List.forall_mem_nil _⟩
  | failed _ _ _ _ _ work | succeeded _ _ _ _ _ work =>
      simp only [List.forall_mem_append, List.forall_mem_cons]
      exact ⟨⟨working_beginning steps, working_perform work⟩, .timed _, saved _ _, .told _ _ _ _,
        List.forall_mem_nil _⟩
  | failedUnsaved _ _ _ _ _ work | succeededUnsaved _ _ _ _ _ work =>
      simp only [List.forall_mem_append, List.forall_mem_cons]
      exact ⟨⟨working_beginning steps, working_perform work⟩, .timed _, saved _ _,
        List.forall_mem_nil _⟩

theorem Skips.working {c : Connection} {r : Execution × Except Failure Unit}
    (h : Skips w l c t r) (steps : OnlySteps e l) : ∀ x ∈ t, Working e ticket x := by
  have saved (s : Step) (reply : Except Failure Unit) :
      Working e ticket (saving (l.addStep s) reply) := .saved (onlySteps_addStep steps s) reply
  cases h with
  | unsaved =>
      simp only [List.forall_mem_cons]
      exact ⟨.timed _, .drawn _, saved _ _, List.forall_mem_nil _⟩
  | saved =>
      simp only [List.forall_mem_cons]
      exact ⟨.timed _, .drawn _, saved _ _, .told _ _ _ _, List.forall_mem_nil _⟩

theorem Turn.working {s s' : Walk} {u : List Event} (h : Turn w ticket s u s')
    (steps : OnlySteps e s.record) : ∀ x ∈ exchanges u, Working e ticket x := by
  cases h with
  | leave | pass => exact List.forall_mem_singleton.mpr (.polled false)
  | skip no skips =>
      rw [exchanges_looked, List.forall_mem_cons]
      exact ⟨.polled false, skips.working steps⟩
  | enter yes target away fresh visits =>
      rw [exchanges_stepped, List.forall_mem_cons]
      exact ⟨.polled false, visits.working steps⟩

theorem Halt.working {s : Walk} {u : List Event} {r : Execution × Option Stop}
    (h : Halt w ticket s u r) (steps : OnlySteps e s.record) :
    ∀ x ∈ exchanges u, Working e ticket x := by
  cases h with
  | finished => exact List.forall_mem_nil _
  | cancelled | raised | lost | cycle => exact List.forall_mem_singleton.mpr (.polled _)
  | unskipped no skips =>
      rw [exchanges_looked, List.forall_mem_cons]
      exact ⟨.polled false, skips.working steps⟩
  | stopped yes target away fresh visits =>
      rw [exchanges_stepped, List.forall_mem_cons]
      exact ⟨.polled false, visits.working steps⟩

theorem Walks.working {s : Walk} {u : List Event} {r : Execution × Option Stop}
    (h : Walks w ticket s u r) (steps : OnlySteps e s.record) :
    ∀ x ∈ exchanges u, Working e ticket x := by
  induction h with
  | halt h => exact h.working steps
  | turn ht _ ih =>
      rw [exchanges_append, List.forall_mem_append]
      exact ⟨ht.working steps, ih (ht.onlySteps steps)⟩

theorem Traverses.working {u : List Event} {r : Execution × Option Stop}
    (h : Traverses w ticket e u r) : ∀ x ∈ exchanges u, Working e ticket x := by
  cases h with
  | triggerless | succeeded => exact List.forall_mem_nil _
  | stopped first fresh visits =>
      rw [exchanges_begun]
      exact visits.working (onlySteps_refl e)
  | walked first fresh visits walks =>
      rw [exchanges_append, exchanges_begun, List.forall_mem_append]
      exact ⟨visits.working (onlySteps_refl e),
        walks.working (visits.record ▸ onlySteps_addStep (onlySteps_refl e) _)⟩

/-- A walk counts nothing. -/
theorem Traverses.countings {u : List Event} {r : Execution × Option Stop}
    (h : Traverses w ticket e u r) : countings (exchanges u) = 0 := by
  rw [Engine.countings, List.countP_eq_zero]
  intro x hx
  rw [(h.working x hx).isCounting]
  exact Bool.false_ne_true

theorem Prepares.countings {data : Value} {r : Except Failure Execution}
    (h : Prepares w data t r) : countings t = 0 := by
  cases h <;> rfl

end TriggerFlow.Engine
