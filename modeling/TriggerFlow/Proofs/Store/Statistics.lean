import TriggerFlow.Proofs.Store.Records

/-!
What a store in memory does to its workflows, and how many of their records are completed. A new
workflow starts without runs, a change keeps its tenant and its count, and only the count of a
completion raises it.
-/

namespace TriggerFlow

theorem Keyed.mem_of_get? {α : Type} {m : Keyed α} {k : String} {a : α} (h : m.get? k = some a) :
    (k, a) ∈ m := by
  induction m with
  | nil => cases h
  | cons e m ih =>
      obtain ⟨k', b⟩ := e
      rw [get?_cons] at h
      split at h
      · next same =>
        cases h
        rw [same]
        exact List.mem_cons_self
      · exact .tail _ (ih h)

theorem Keyed.mem_put {α : Type} {m : Keyed α} {k : String} {a : α} {x : String × α}
    (h : x ∈ m.put k a) : x = (k, a) ∨ x ∈ m := by
  induction m with
  | nil => exact .inl (List.mem_singleton.mp h)
  | cons e m ih =>
      obtain ⟨k', b⟩ := e
      rw [put] at h
      split at h
      · next same =>
        subst same
        exact (List.mem_cons.mp h).imp_right (.tail _)
      · obtain rfl | h := List.mem_cons.mp h
        · exact .inr List.mem_cons_self
        · exact (ih h).imp_right (.tail _)

theorem Keyed.countP_put {α : Type} (p : α → Bool) (m : Keyed α) (k : String) (a : α) :
    (m.put k a).values.countP p + (if (m.get? k).any p then 1 else 0) =
      m.values.countP p + if p a then 1 else 0 := by
  induction m with
  | nil => simp [put, values, get?]
  | cons e m ih =>
      obtain ⟨k', b⟩ := e
      simp only [values] at ih
      by_cases h : k' = k
      · subst h
        simp only [put, if_pos, values, List.map_cons, List.countP_cons, get?_cons, Option.any_some]
        omega
      · simp only [put, h, if_false, values, List.map_cons, List.countP_cons, get?_cons, Ne.symm h]
        omega

namespace Store.Memory

variable {m : Memory} {w v : Workflow} {e l : Execution} {id i tenant : String}
  {time finish : Moment} {fresh : String}

def isCompletionOf (workflow : String) (e : Execution) : Bool :=
  e.workflow == workflow && e.status == .completed

/-- How many records of a workflow are stored as completed. -/
def completions (m : Memory) (workflow : String) : Nat :=
  m.executions.values.countP (isCompletionOf workflow)

theorem isCompletionOf_of_unfinished (h : e.isFinished = false) : isCompletionOf i e = false := by
  simp [isCompletionOf, Execution.isFinished_eq_false.mp h]

/-- A record that is put in place of a running one, or as a new one, counts if it is completed. -/
theorem completions_put (h : ∀ l, m.executions.get? id = some l → l.isFinished = false) :
    completions { m with executions := m.executions.put id e } i =
      completions m i + if isCompletionOf i e then 1 else 0 := by
  have before : (m.executions.get? id).any (isCompletionOf i) = false := by
    cases found : m.executions.get? id with
    | none => rfl
    | some l => exact isCompletionOf_of_unfinished (h l found)
  have put := m.executions.countP_put (isCompletionOf i) id e
  rw [before, if_neg Bool.false_ne_true] at put
  exact put

theorem completions_eq_zero (h : ∀ id e, (id, e) ∈ m.executions → e.workflow ≠ i) :
    m.completions i = 0 := by
  rw [completions, List.countP_eq_zero]
  intro e stored
  obtain ⟨⟨id, e⟩, entry, rfl⟩ := List.mem_map.mp stored
  simp [isCompletionOf, h id e entry]

theorem saveExecution_eq_put (h : ∀ l, m.executions.get? e.id = some l → l.isFinished = false) :
    m.saveExecution e = { m with executions := m.executions.put e.id e } := by
  have running : ((m.executions.get? e.id).any Execution.isFinished) = false := by
    cases hl : m.executions.get? e.id with
    | none => rfl
    | some l => exact h l hl
  rw [saveExecution, if_neg (Bool.eq_false_iff.mp running)]

theorem workflow?_eq_some : m.workflow? id tenant = some w ↔
    m.workflows.get? id = some w ∧ w.tenant = tenant := by
  simp [workflow?, Option.filter_eq_some_iff]

theorem execution?_eq_some : m.execution? id tenant = some e ↔
    m.executions.get? id = some e ∧ e.tenant = tenant := by
  simp [execution?, Option.filter_eq_some_iff]

/-- How the workflows of a store can change, other than by the count of a completion. -/
inductive Revises (m : Memory) : Memory → Prop
  | same : Revises m m
  | replaced {i : String} {w v : Workflow} (found : m.workflows.get? i = some w)
      (named : v.id = some i) (tenant : v.tenant = w.tenant) (count : v.runCount = w.runCount) :
      Revises m { m with workflows := m.workflows.put i v }
  | erased (i : String) : Revises m { m with workflows := m.workflows.erase i }

theorem revises_updateWorkflow (m : Memory) (time : Moment) (fresh : String) (w : Workflow) :
    Revises m (m.reply time fresh (.updateWorkflow w)).2 := by
  unfold reply
  dsimp only
  split
  · next current found =>
    obtain ⟨i, named, found⟩ := Option.bind_eq_some_iff.mp found
    obtain ⟨found, mine⟩ := workflow?_eq_some.mp found
    rw [updateWorkflow]
    dsimp only
    rw [named]
    exact .replaced found rfl mine.symm rfl
  · exact .same

theorem revises_deleteWorkflow (m : Memory) (id tenant : String) :
    Revises m (m.deleteWorkflow id tenant).2 := by
  unfold deleteWorkflow
  split
  · exact .erased id
  · exact .same

/-- A workflow after one more run. -/
def countedOnce (w : Workflow) (finish : Moment) : Workflow :=
  { w with runCount := w.runCount + 1, lastRun := some finish }

/-- A workflow that is found is counted once more; where none is found nothing changes. -/
theorem incrementRunCount_cases (m : Memory) (i tenant : String) (finish : Moment) :
    (∃ w, m.workflows.get? i = some w ∧ w.tenant = tenant ∧
      m.incrementRunCount (some i) tenant finish =
        { m with workflows := m.workflows.put i (countedOnce w finish) }) ∨
    (∀ w, m.workflows.get? i = some w → w.tenant ≠ tenant) ∧
      m.incrementRunCount (some i) tenant finish = m := by
  unfold incrementRunCount
  cases found : m.workflow? i tenant with
  | some w =>
      obtain ⟨stored, mine⟩ := workflow?_eq_some.mp found
      exact .inl ⟨w, stored, mine, by simp [found, countedOnce]⟩
  | none =>
      refine .inr ⟨fun w stored mine => ?_, by simp [found]⟩
      rw [workflow?_eq_some.mpr ⟨stored, mine⟩] at found
      cases found

end Store.Memory
end TriggerFlow
