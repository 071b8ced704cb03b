import TriggerFlow.Store.Memory

/-!
What a store in memory does to its records. A record is written by a save and by a mark only, under
its own key, and only as long as it is running; nothing removes it.
-/

namespace TriggerFlow.Store.Memory

variable {m m' : Memory} {e l : Execution} {id other tenant : String} {time finish : Moment}
  {fresh : String} {c : Call}

/-- The answer to a call at some moment, with some id for a new workflow. -/
def reply (m : Memory) (time : Moment) (fresh : String) : (c : Call) → Reply c × Memory
  | .createWorkflow w =>
    (.ok (m.createWorkflow time fresh w).1, (m.createWorkflow time fresh w).2)
  | .getWorkflow id tenant => (.ok (m.workflow? id tenant), m)
  | .listWorkflows tenant status search => (.ok (m.listWorkflows tenant status search), m)
  | .updateWorkflow w =>
    match m.updated? w with
    | some current =>
      (.ok (m.updateWorkflow time w current).1, (m.updateWorkflow time w current).2)
    | none => (.error (.engine (.workflowNotFound w.id)), m)
  | .deleteWorkflow id tenant =>
    (.ok (m.deleteWorkflow id tenant).1, (m.deleteWorkflow id tenant).2)
  | .incrementRunCount id tenant finish => (.ok (), m.incrementRunCount id tenant finish)
  | .saveExecution e => (.ok (), m.saveExecution e)
  | .markCancelled id tenant finish =>
    (.ok (m.markCancelled id tenant finish).1, (m.markCancelled id tenant finish).2)
  | .getExecution id tenant => (.ok (m.execution? id tenant), m)
  | .listExecutions workflow tenant limit => (m.listExecutions workflow tenant limit, m)

/-- Whatever clock and ids the store has, it answers as at some moment and with some id. -/
theorem exists_answer_eq_reply (m : Memory) (s : Sources) (c : Call) :
    ∃ time fresh, (m.answer s c).1 = (m.reply time fresh c).1 ∧
      (m.answer s c).2.1 = (m.reply time fresh c).2 := by
  cases c with
  | createWorkflow w =>
      exact ⟨s.now.1, (if idFor w "" = "" then s.now.2.fresh else ("", s.now.2)).1, rfl, rfl⟩
  | updateWorkflow w =>
      refine ⟨s.now.1, "", ?_⟩
      cases h : m.updated? w with
      | none | some current => simp only [answer, reply, h, and_self]
  | _ => exact ⟨s.now.1, "", rfl, rfl⟩

theorem saveExecution_of_finished (h : m.executions.get? e.id = some l)
    (finished : l.isFinished = true) : m.saveExecution e = m := by
  simp [saveExecution, h, finished]

theorem get?_saveExecution (h : ∀ l, m.executions.get? e.id = some l → l.isFinished = false) :
    (m.saveExecution e).executions.get? id =
      if id = e.id then some e else m.executions.get? id := by
  have running : ((m.executions.get? e.id).any Execution.isFinished) = false := by
    cases hl : m.executions.get? e.id with
    | none => rfl
    | some l => exact h l hl
  rw [saveExecution, if_neg (Bool.eq_false_iff.mp running)]
  exact Keyed.get?_put ..

theorem get?_saveExecution_of_ne (apart : id ≠ e.id) :
    (m.saveExecution e).executions.get? id = m.executions.get? id := by
  unfold saveExecution
  split
  · rfl
  · exact (Keyed.get?_put ..).trans (if_neg apart)

@[simp] theorem isFinished_cancelled : (cancelled e finish).isFinished = true := rfl

theorem markCancelled_of_finished (h : m.executions.get? id = some l)
    (finished : l.isFinished = true) : m.markCancelled id tenant finish = (none, m) := by
  have none : (m.execution? id tenant).filter (!·.isFinished) = none := by
    rw [execution?, h]
    by_cases mine : l.tenant = tenant
    · simp [mine, finished]
    · simp [mine]
  rw [markCancelled, none]

theorem markCancelled_of_running (h : m.executions.get? id = some e) (mine : e.tenant = tenant)
    (running : e.isFinished = false) : m.markCancelled id tenant finish =
      (some (cancelled e finish),
        { m with executions := m.executions.put id (cancelled e finish) }) := by
  have found : (m.execution? id tenant).filter (!·.isFinished) = some e := by
    simp [execution?, h, mine, running]
  rw [markCancelled, found]

/-- A mark closes a running record of the tenant, and otherwise does nothing. -/
theorem markCancelled_cases (m : Memory) (id tenant : String) (finish : Moment) :
    m.markCancelled id tenant finish = (none, m) ∨
      ∃ e, m.executions.get? id = some e ∧ e.tenant = tenant ∧ e.isFinished = false ∧
        m.markCancelled id tenant finish = (some (cancelled e finish),
          { m with executions := m.executions.put id (cancelled e finish) }) := by
  unfold markCancelled
  split
  · next e he =>
    obtain ⟨he, running⟩ := Option.filter_eq_some_iff.mp he
    obtain ⟨he, mine⟩ := Option.filter_eq_some_iff.mp he
    exact .inr ⟨e, he, by simpa using mine, by simpa using running, rfl⟩
  · exact .inl rfl

theorem get?_markCancelled_of_ne (apart : id ≠ other) :
    (m.markCancelled other tenant finish).2.executions.get? id = m.executions.get? id := by
  obtain h | ⟨e, -, -, -, h⟩ := markCancelled_cases m other tenant finish
  · rw [h]
  · rw [h]
    exact (Keyed.get?_put ..).trans (if_neg apart)

/-- The calls that may write a record. -/
def writes? : Call → Option String
  | .saveExecution e => some e.id
  | .markCancelled id _ _ => some id
  | _ => none

theorem executions_deleteWorkflow :
    (m.deleteWorkflow id tenant).2.executions = m.executions := by
  unfold deleteWorkflow
  split <;> rfl

theorem executions_incrementRunCount {id : Option String} :
    (m.incrementRunCount id tenant finish).executions = m.executions := by
  unfold incrementRunCount
  split <;> rfl

theorem executions_reply (h : writes? c = none) :
    (m.reply time fresh c).2.executions = m.executions := by
  cases c with
  | saveExecution | markCancelled => cases h
  | updateWorkflow w =>
      rw [reply]
      split <;> rfl
  | deleteWorkflow => exact executions_deleteWorkflow
  | incrementRunCount => exact executions_incrementRunCount
  | _ => rfl

/-- A finished record stays as it is, whatever the store is asked. -/
theorem get?_reply_of_finished (h : m.executions.get? id = some e)
    (finished : e.isFinished = true) :
    (m.reply time fresh c).2.executions.get? id = some e := by
  cases c with
  | saveExecution d =>
      show (m.saveExecution d).executions.get? id = some e
      by_cases same : id = d.id
      · rw [saveExecution_of_finished (same ▸ h) finished, h]
      · rw [get?_saveExecution_of_ne same, h]
  | markCancelled other tenant finish =>
      show (m.markCancelled other tenant finish).2.executions.get? id = some e
      by_cases same : id = other
      · rw [markCancelled_of_finished (same ▸ h) finished, h]
      · rw [get?_markCancelled_of_ne same, h]
  | _ =>
      rw [executions_reply rfl]
      exact h

end TriggerFlow.Store.Memory
