import TriggerFlow.Proofs.Store.Histories

/-!
A record is finished at most once. A save replaces a record by what is saved and a mark closes it,
both only as long as it is running; from then on it stays as it is, so that no second mark of the
same record gives anything.
-/

namespace TriggerFlow.Store

def closes (id : String) : Exchange → Bool
  | ⟨.markCancelled i _ _, .ok found⟩ => i == id && Option.isSome found
  | _ => false

namespace Memory

variable {m m' : Memory} {t : List Exchange} {e : Execution} {id owner : String}
  {finish time : Moment} {fresh : String} {c : Call} {s : Sources}

theorem Serves.get?_of_finished (h : m.Serves t m') (found : m.executions.get? id = some e)
    (finished : e.isFinished = true) : m'.executions.get? id = some e :=
  h.preserves (P := fun _ m => m.executions.get? id = some e) found
    fun _ _ _ found => get?_reply_of_finished found finished

/-- Only saves and marks of its own touch a record. -/
theorem get?_answer_of_ne (h : writes? c ≠ some id) :
    (m.answer s c).2.1.executions.get? id = m.executions.get? id := by
  obtain ⟨time, fresh, -, stored⟩ := exists_answer_eq_reply m s c
  rw [stored]
  cases c with
  | saveExecution e => exact get?_saveExecution_of_ne fun same => h (congrArg some same.symm)
  | markCancelled i owner finish =>
      exact get?_markCancelled_of_ne fun same => h (congrArg some same.symm)
  | _ => exact congrArg (Keyed.get? · id) (executions_reply rfl)

/-- A mark gives a record if and only if it closes one that is running and the tenant's own. -/
theorem markCancelled_closes (m : Memory) (id owner : String) (finish : Moment) :
    (∃ e, m.executions.get? id = some e ∧ e.tenant = owner ∧ e.isFinished = false ∧
      m.markCancelled id owner finish = (some (cancelled e finish),
        { m with executions := m.executions.put id (cancelled e finish) })) ∨
    (∀ e, m.executions.get? id = some e → e.tenant = owner → e.isFinished = true) ∧
      m.markCancelled id owner finish = (none, m) := by
  obtain nothing | closed := markCancelled_cases m id owner finish
  · refine .inr ⟨fun e found mine => ?_, nothing⟩
    cases running : e.isFinished with
    | true => rfl
    | false =>
        rw [markCancelled_of_running found mine running] at nothing
        cases congrArg Prod.fst nothing
  · exact .inl closed

/-- The record that a mark of the history has closed is finished, and there is at most one such
mark. -/
structure ClosedOnce (id : String) (t : List Exchange) (m : Memory) : Prop where
  once : t.countP (closes id) ≤ 1
  finished : 0 < t.countP (closes id) → ∃ e, m.executions.get? id = some e ∧ e.isFinished = true

theorem ClosedOnce.unclosed (h : ClosedOnce id t m)
    (running : ∀ e, m.executions.get? id = some e → e.isFinished = false) :
    t.countP (closes id) = 0 := by
  refine Nat.eq_zero_of_not_pos fun some => ?_
  obtain ⟨e, found, finished⟩ := h.finished some
  cases (running e found).symm.trans finished

theorem ClosedOnce.goes_on (h : ClosedOnce id t m)
    (quiet : closes id ⟨c, (m.reply time fresh c).1⟩ = false) :
    ClosedOnce id (t ++ [⟨c, (m.reply time fresh c).1⟩]) (m.reply time fresh c).2 := by
  have same : List.countP (closes id) (t ++ [⟨c, (m.reply time fresh c).1⟩]) =
      t.countP (closes id) := by
    rw [List.countP_append, List.countP_singleton, quiet]
    rfl
  refine ⟨Nat.le_trans (Nat.le_of_eq same) h.once, fun some => ?_⟩
  obtain ⟨e, found, finished⟩ := h.finished (same ▸ some)
  exact ⟨e, get?_reply_of_finished found finished, finished⟩

theorem ClosedOnce.reply (h : ClosedOnce id t m) (time : Moment) (fresh : String) (c : Call) :
    ClosedOnce id (t ++ [⟨c, (m.reply time fresh c).1⟩]) (m.reply time fresh c).2 := by
  cases c with
  | markCancelled i owner finish =>
      obtain ⟨e, found, mine, running, closed⟩ | ⟨-, nothing⟩ :=
        m.markCancelled_closes i owner finish
      · by_cases same : i = id
        · subst same
          have none : t.countP (closes i) = 0 := by
            refine h.unclosed fun l stored => ?_
            cases found.symm.trans stored
            exact running
          refine ⟨?_, fun _ => ⟨cancelled e finish, ?_, rfl⟩⟩
          · rw [List.countP_append, none, List.countP_singleton]
            split <;> omega
          · show (m.markCancelled i owner finish).2.executions.get? i = _
            rw [closed]
            exact (Keyed.get?_put ..).trans (if_pos rfl)
        · refine h.goes_on ?_
          show (i == id && _) = false
          rw [beq_false_of_ne same, Bool.false_and]
      · refine h.goes_on ?_
        show (i == id && (m.markCancelled i owner finish).1.isSome) = false
        rw [nothing]
        exact Bool.and_false _
  | listExecutions workflow owner limit => exact h.goes_on rfl
  | updateWorkflow w => exact h.goes_on rfl
  | _ => exact h.goes_on rfl

theorem Serves.closedOnce (h : empty.Serves t m) (id : String) : ClosedOnce id t m :=
  h.preserves (P := fun t m => ClosedOnce id t m)
    ⟨Nat.zero_le _, fun some => absurd some (Nat.lt_irrefl _)⟩
    fun time fresh c once => once.reply time fresh c

/-- Whatever a store has been asked before: a finished record stays as it is for ever; one that is
running, or missing, becomes exactly what is saved under its id; a mark gives a record if and only
if it is running and the tenant's own, which is then cancelled and otherwise as it was, and does
nothing else; and of all marks of an id at most one gives anything. -/
theorem records_finish_once (h : empty.Serves t m) (id : String) :
    (∀ e, m.executions.get? id = some e → e.isFinished = true →
      ∀ u m', m.Serves u m' → m'.executions.get? id = some e) ∧
    (∀ (e : Execution) s, e.id = id →
      (∀ l, m.executions.get? id = some l → l.isFinished = false) →
        (m.answer s (.saveExecution e)).2.1 =
          { m with executions := m.executions.put id e }) ∧
    (∀ owner finish s,
      (∃ e closed, m.executions.get? id = some e ∧ e.tenant = owner ∧ e.status = .running ∧
        closed = { e with
          status := .cancelled
          error := some EngineError.cancelledMessage
          completedAt := some finish } ∧
        m.answer s (.markCancelled id owner finish) =
          (.ok (some closed), { m with executions := m.executions.put id closed }, s)) ∨
      (∀ e, m.executions.get? id = some e → e.tenant = owner → e.isFinished = true) ∧
        m.answer s (.markCancelled id owner finish) = (.ok none, m, s)) ∧
    (∀ c s, writes? c ≠ some id →
      (m.answer s c).2.1.executions.get? id = m.executions.get? id) ∧
    t.countP (closes id) ≤ 1 := by
  refine ⟨fun e found finished u m' served => served.get?_of_finished found finished,
    fun e s named running => ?_, fun owner finish s => ?_, fun c s => get?_answer_of_ne,
    (h.closedOnce id).once⟩
  · subst named
    exact saveExecution_eq_put running
  · obtain ⟨e, found, mine, running, closed⟩ | ⟨finished, nothing⟩ :=
      m.markCancelled_closes id owner finish
    · refine .inl ⟨e, _, found, mine, Execution.isFinished_eq_false.mp running, rfl, ?_⟩
      rw [answer, closed]
      rfl
    · refine .inr ⟨finished, ?_⟩
      rw [answer, nothing]

section Sample

def sampleRecord : Execution :=
  { id := "record", workflow := "workflow", tenant := "tenant", status := .running,
    triggerData := [], steps := [], startedAt := .utc 0, completedAt := none, error := none }

/-- A record is marked by another tenant, by its own one, and twice more after a late save. -/
def sampleMarks : List Call :=
  [.saveExecution sampleRecord, .markCancelled "record" "other" (.utc 1),
    .markCancelled "record" "tenant" (.utc 2),
    .saveExecution { sampleRecord with status := .completed, completedAt := some (.utc 3) },
    .markCancelled "record" "tenant" (.utc 4), .markCancelled "record" "other" (.utc 5)]

theorem sample_finishes_once : ∃ t m, empty.Serves t m ∧ t.countP (closes "record") = 1 ∧
    ∀ u m', m.Serves u m' →
      m'.executions.get? "record" = some (cancelled sampleRecord (.utc 2)) := by
  have served := serves_transcript empty (Sources.start 1) sampleMarks
  refine ⟨_, _, served, ?_, (records_finish_once served "record").1 _ rfl rfl⟩
  have once := (records_finish_once served "record").2.2.2.2
  exact Nat.le_antisymm once (by decide +kernel)

end Sample

end Memory
end TriggerFlow.Store
