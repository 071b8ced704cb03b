import TriggerFlow.Proofs.Run.Completion
import TriggerFlow.Proofs.Run.History

/-!
What the listener is told about a run. From its preparation to its end it is told that the run has
started, of each step of the record that it started and how it ended or that it was skipped, and how
the run ended. Whether the listener fails at this makes no difference.
-/

namespace TriggerFlow.Engine

open Program

variable {w : Workflow} {ticket : Ticket} {e l d : Execution} {u v : List Event}
  {t t₂ : List Exchange} {n : Node} {context : Fields} {execution : String}

/-- What a listener is told in one call. -/
structure Notice where
  execution : String
  event : String
  data : Fields

def notice? : Exchange → Option Notice
  | ⟨.notify execution event data, _⟩ => some ⟨execution, event, data⟩
  | _ => none

/-- The calls of the listener, whether it failed or not. -/
def notices (t : List Exchange) : List Notice := t.filterMap notice?

@[simp] theorem notices_nil : notices [] = [] := rfl

@[simp] theorem notices_append (t u : List Exchange) : notices (t ++ u) = notices t ++ notices u :=
  List.filterMap_append

@[simp] theorem notices_polling (ticket : Ticket) (b : Bool) (t : List Exchange) :
    notices (polling ticket b :: t) = notices t := rfl

theorem notices_perform {p : Except Failure Fields} (h : (perform n context).Ends t p) :
    notices t = [] := by
  obtain rfl | ⟨_, _, _, _, rfl⟩ := eq_of_perform h
  · rfl
  · rfl

/-- The connections that were looked at and not followed, in that order. -/
def refusals (u : List Event) : List Connection :=
  ((evaluations u).filter Evaluation.isNo).map (·.connection)

@[simp] theorem refusals_nil : refusals [] = [] := rfl

@[simp] theorem refusals_append (u v : List Event) :
    refusals (u ++ v) = refusals u ++ refusals v := by
  rw [refusals, evaluations_append, List.filter_append, List.map_append]
  rfl

theorem refusals_plain (t : List Exchange) : refusals (plain t) = [] := by
  rw [refusals, evaluations_plain]
  rfl

theorem refusals_begun (n : Node) (context : Fields) (t : List Exchange) :
    refusals (.entered n context :: plain t) = [] := refusals_plain t

theorem refusals_left (x : Exchange) (node : String) :
    refusals [.exchange x, .left node] = [] := rfl

theorem refusals_looked {x : Exchange} {z : Evaluation} (u : List Event) (no : z.isNo = true) :
    refusals (.exchange x :: .evaluated z :: u) = z.connection :: refusals u := by
  rw [refusals, evaluations_cons, evaluations_cons]
  exact congrArg _ (List.filter_cons_of_pos no)

theorem refusals_unrefused {x : Exchange} {z : Evaluation} (u : List Event) (h : z.isNo = false) :
    refusals (.exchange x :: .evaluated z :: u) = refusals u := by
  rw [refusals, evaluations_cons, evaluations_cons]
  exact congrArg _ (List.filter_cons_of_neg (Bool.eq_false_iff.mp h))

theorem isNo_of_result {z : Evaluation} {b : Bool} (h : z.result = .ok b) : z.isNo = !b := by
  rw [Evaluation.isNo, h]

theorem isNo_of_error {z : Evaluation} {f : Failure} (h : z.result = .error f) :
    z.isNo = false := by
  rw [Evaluation.isNo, h]

/-- That the work of this step has started. -/
def started (execution : String) (s : Step) : Notice :=
  ⟨execution, "node_start", [("node_id", .str s.node), ("step_id", .str s.id)]⟩

/-- What the listener is told of a step that is over, and the connection on account of which it was
skipped if it was. -/
inductive Tells (execution : String) : Step → List Connection → List Notice → Prop
  | succeeded {s : Step} {output : Fields} (status : s.status = .success)
      (given : s.output = some output) :
      Tells execution s [] [started execution s,
        ⟨execution, "node_complete", [("node_id", .str s.node), ("output", .obj output)]⟩]
  | failed {s : Step} {message : String} (status : s.status = .failed)
      (error : s.error = some message) :
      Tells execution s [] [started execution s,
        ⟨execution, "node_failed", [("node_id", .str s.node), ("error", .str message)]⟩]
  | skipped {s : Step} {c : Connection} (status : s.status = .skipped)
      (target : s.node = c.target) :
      Tells execution s [c]
        [⟨execution, "node_skipped", [("node_id", .str s.node), ("connection_id", .str c.id)]⟩]

/-- What the listener is told of the steps of a record, one step after the other, with the
connections on account of which steps were skipped. -/
inductive Retells (execution : String) : List Step → List Connection → List Notice → Prop
  | nil : Retells execution [] [] []
  | step {steps : List Step} {cs ds : List Connection} {told more : List Notice} {s : Step}
      (before : Retells execution steps cs told) (tells : Tells execution s ds more) :
      Retells execution (steps ++ [s]) (cs ++ ds) (told ++ more)

theorem notices_visit {fresh : String} {start : Moment} {told : Except Failure Unit}
    {p : Except Failure Fields} (work : (perform n context).Ends t p) :
    notices (beginning l n fresh start told ++ t ++ t₂) =
      started l.id (runningStep n (stepName fresh) start) :: notices t₂ := by
  rw [notices_append, notices_append, notices_perform work]
  rfl

/-- The listener is told of a visit what the step of the record says about it. -/
theorem Visits.tells {r : Except (Execution × Stop) (Execution × Visit)}
    (h : Visits w l n context t r) (stored : Stored t) :
    ∃ s, visited r = l.addStep s ∧ Tells l.id s [] (notices t) := by
  cases h with
  | unbegun => exact absurd stored (not_stored (.tail _ (.tail _ (.head _))))
  | failedUnsaved | succeededUnsaved =>
      exact absurd stored (not_stored (List.mem_append_right _ (.tail _ (.head _))))
  | failed fresh start finish told reply work =>
      refine ⟨_, rfl, ?_⟩
      rw [notices_visit work]
      exact .failed (s := failedStep n (stepName fresh) start finish _) rfl rfl
  | succeeded fresh start finish told reply work =>
      refine ⟨_, rfl, ?_⟩
      rw [notices_visit work]
      exact .succeeded (s := Visit.step ⟨stepName fresh, start, finish, _⟩ n) rfl rfl

theorem Skips.tells {c : Connection} (h : Skips w l c t (d, .ok ())) :
    ∃ s, d = l.addStep s ∧ Tells l.id s [c] (notices t) := by
  cases h with
  | saved time fresh reply =>
      exact ⟨_, rfl, .skipped (s := skippedStep w c (stepName fresh) time) rfl rfl⟩

/-- Between two turns of a walk the listener knows all steps of the record. -/
structure Reported (e : Execution) (u : List Event) (s : Walk) : Prop where
  id : s.record.id = e.id
  told : Retells e.id s.record.steps (refusals u) (notices (exchanges u))

theorem Reported.step {s : Walk} {step : Step} {ds : List Connection} {more : List Notice}
    (h : Reported e u s) (tells : Tells s.record.id step ds more) :
    Retells e.id (s.record.addStep step).steps (refusals u ++ ds)
      (notices (exchanges u) ++ more) := by
  rw [h.id] at tells
  exact .step h.told tells

theorem Reported.turn {s s' : Walk} (h : Reported e u s) (ht : Turn w ticket s v s') :
    Reported e (u ++ v) s' := by
  have id : s'.record.id = e.id := by
    rw [(ht.onlySteps (onlySteps_refl _)).id, h.id]
  refine ⟨id, ?_⟩
  rw [refusals_append, exchanges_append, notices_append]
  cases ht with
  | leave => simpa [refusals_left] using h.told
  | pass yes => simpa [refusals_unrefused _ (isNo_of_result yes)] using h.told
  | skip no skips =>
      rw [refusals_looked _ (isNo_of_result no), refusals_plain, exchanges_looked, notices_polling]
      obtain ⟨step, rfl, tells⟩ := skips.tells
      exact h.step tells
  | enter yes target away fresh visits =>
      rw [refusals_unrefused _ (isNo_of_result yes), refusals_begun, exchanges_stepped,
        notices_polling]
      obtain ⟨step, added, tells⟩ := visits.tells visits.stored
      obtain rfl : _ = _ := added
      exact h.step tells

/-- Where a walk halts and all was saved, the listener knows all steps of the record. -/
theorem Reported.halt {s : Walk} {r : Execution × Option Stop} (h : Reported e u s)
    (halt : Halt w ticket s v r) (stored : Stored (exchanges v)) :
    Retells e.id r.1.steps (refusals (u ++ v)) (notices (exchanges (u ++ v))) := by
  rw [refusals_append, exchanges_append, notices_append]
  cases halt with
  | finished | cancelled => simpa [refusals] using h.told
  | raised raises => simpa [refusals_unrefused _ (isNo_of_error raises)] using h.told
  | lost yes | cycle yes => simpa [refusals_unrefused _ (isNo_of_result yes)] using h.told
  | unskipped no skips =>
      rw [exchanges_looked, stored_polling] at stored
      exact absurd stored skips.not_stored
  | stopped yes target away fresh visits =>
      rw [exchanges_stepped, stored_polling] at stored
      rw [refusals_unrefused _ (isNo_of_result yes), refusals_begun, exchanges_stepped,
        notices_polling]
      obtain ⟨step, added, tells⟩ := visits.tells stored
      obtain rfl : _ = _ := added
      exact h.step tells

theorem Traverses.retells {r : Execution × Option Stop} (prepared : Prepared w e)
    (h : Traverses w ticket e u r) (stored : Stored (exchanges u)) :
    Retells e.id r.1.steps (refusals u) (notices (exchanges u)) := by
  obtain ⟨n, ns, first⟩ := prepared.activatable.trigger
  have start {t : List Exchange} {r : Except (Execution × Stop) (Execution × Visit)}
      (visits : Visits w e n e.triggerData t r) (stored : Stored t) :
      (visited r).id = e.id ∧ Retells e.id (visited r).steps
        (refusals (.entered n e.triggerData :: plain t))
        (notices (exchanges (.entered n e.triggerData :: plain t))) := by
    obtain ⟨step, added, tells⟩ := visits.tells stored
    rw [added, refusals_begun, exchanges_begun, Execution.addStep, prepared.unstarted]
    exact ⟨rfl, .step .nil tells⟩
  obtain ⟨_, _, _, visits, rfl, rfl⟩ | ⟨u', s, v, reported, halt, rfl⟩ :=
    h.exists_halt (P := Reported e) prepared first
      (fun visits =>
        have begun := start visits visits.stored
        ⟨begun.1, begun.2⟩) Reported.turn
  · rw [exchanges_begun] at stored
    exact (start visits stored).2
  · rw [exchanges_append, stored_append] at stored
    exact reported.halt halt stored.2

/-- That a run is running, as the listener is told first. -/
def opening (execution : String) : Notice :=
  ⟨execution, "status", [("status", .str ExecutionStatus.running.name)]⟩

/-- How a run has ended, as the listener is told last. -/
def closing (e : Execution) : Notice :=
  ⟨e.id, "status", [("status", .str e.status.name), ("error", Value.ofText? e.error)]⟩

theorem Prepares.notices_eq {data : Value} (h : Prepares w data t (.ok e))
    (running : e.status = .running) : notices t = [opening e.id] := by
  cases h with
  | registered =>
      rw [opening, ← running]
      rfl

theorem Concludes.notices_eq {s : Execution × Option Stop} (h : Concludes w ticket s t (.ok d)) :
    notices t = [closing d] := by
  cases h with
  | counted taken | closed taken =>
      rw [closing, ← concluded_id taken]
      rfl

/-- The listener is told the record of a run step by step, whether it fails at that or not, over a
store that saves and unless the conditions of a connection raise. -/
theorem listener_is_told {data : Value} {t₀ : List Exchange} {r : Except Failure Execution}
    (accepted : (prepare w data).Ends t₀ (.ok e)) (ran : (run w alone e).Ends t r)
    (stored : Stored (t₀ ++ t)) :
    (∃ f, r = .error f ∧ Raised w e t) ∨ ∃ u s d told,
      r = .ok d ∧ Course w e u s t r ∧ Retells e.id d.steps (refusals u) told ∧
        notices (t₀ ++ t) = opening e.id :: told ++ [closing d] := by
  have prepared := prepared_of_ends accepted
  have prepares := prepares_of_ends accepted
  rw [stored_append] at stored
  obtain failed | ⟨ticket, u, l, stop, c, ended, finish, traverses, walked, taken, rfl, concludes,
    rfl⟩ := raised_or_concluded prepared ran stored.2
  · exact .inl failed
  have told := traverses.retells prepared walked
  rw [← (concluded_sameRun taken).2] at told
  refine .inr ⟨u, _, _, _, rfl, .intro traverses concludes, told, ?_⟩
  rw [notices_append, notices_append, prepares.notices_eq prepared.running, concludes.notices_eq]
  rfl

/-- The listener is told of the two nodes that the sample dispatches, and of the one it skips. -/
theorem sample_is_told : ∃ u d told, (run sample alone sampleRecord).Ends sampleRun (.ok d) ∧
    Retells sampleRecord.id d.steps (refusals u) told ∧
    notices ((prepare sample .null).exchange calm () ++ sampleRun) =
      opening sampleRecord.id :: told ++ [closing d] := by
  obtain ⟨d, ran⟩ := sample_returns
  obtain ⟨f, failed, -⟩ | ⟨u, _, d, told, given, -, retells, whole⟩ :=
    listener_is_told sample_prepared ran sample_stored
  · cases failed
  · rw [given] at ran
    exact ⟨u, d, told, ran, retells, whole⟩

end TriggerFlow.Engine
