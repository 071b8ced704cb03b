import Mathlib.Order.Bounds.Basic
import TriggerFlow.Proofs.Run.Account

/-!
The record of a run that ends completed. The nodes that succeeded are those that the first trigger
leads to, no more and no less; every connection of theirs was evaluated once, and those that were
not followed are the skipped steps.
-/

namespace TriggerFlow.Engine

variable {w : Workflow} {e l : Execution} {u : List Event} {start : String}

def Evaluation.isNo (v : Evaluation) : Bool :=
  match v.result with
  | .ok b => !b
  | .error _ => false

/-- The ids of the nodes with a success step. -/
def succeeded (e : Execution) : Set String := {id | (e.successfulStep? id).isSome = true}

/-- The sets of ids that contain the first one and, with a node, the targets of its connections
whose conditions hold in the input that the node was entered with. -/
def closedSets (w : Workflow) (start : String) (u : List Event) : Set (Set String) :=
  {T | start ∈ T ∧ ∀ n context, (n, context) ∈ entries u → n.id ∈ T →
    ∀ c ∈ w.connections, c.source = n.id → Evaluation.result ⟨c, context⟩ = .ok true →
      c.target ∈ T}

/-- A record that accounts for every connection of the nodes that succeeded. -/
structure Complete (w : Workflow) (start : String) (u : List Event) (e : Execution) : Prop where
  once : (enteredIds u).Nodup
  visited : ∀ id, id ∈ succeeded e ↔ id ∈ enteredIds u
  least : IsLeast (closedSets w start u) (succeeded e)
  evaluated : (evaluations u).Perm (due w u)
  skips : ∀ id, (e.steps.countP fun s => s.node == id && s.status == .skipped) =
    (due w u).countP fun v => v.connection.target == id && v.isNo
  successes : (e.steps.filter (·.status == .success)).map (·.node) = enteredIds u
  others : ∀ s ∈ e.steps, s.status = .success ∨ s.status = .skipped
  led : Led w start u e.steps

theorem countP_marks (id : String) :
    ((marks u).countP fun m => m.1 == id && m.2 == .skipped) =
      (evaluations u).countP fun v => v.connection.target == id && v.isNo := by
  induction u with
  | nil => rfl
  | cons x u ih =>
      rw [marks_cons, evaluations_cons, List.countP_append, List.countP_append, ih]
      congr 1
      cases x with
      | exchange | left => rfl
      | entered n context => simp
      | evaluated v =>
          simp only [Event.mark?, Event.evaluation?, Option.toList, List.countP_singleton,
            Evaluation.isNo]
          generalize v.result = result
          match result with
          | .ok true | .ok false | .error f => simp

theorem marks_success :
    ((marks u).filter (·.2 == .success)).map (·.1) = enteredIds u := by
  induction u with
  | nil => rfl
  | cons x u ih =>
      rw [marks_cons, enteredIds_cons, List.filter_append, List.map_append, ih]
      congr 1
      cases x with
      | exchange | left => rfl
      | entered n context => rfl
      | evaluated v =>
          simp only [Event.mark?]
          split <;> rfl

theorem mark_eq {m : String × StepStatus} (hm : m ∈ marks u) :
    m.2 = .success ∨ m.2 = .skipped := by
  obtain ⟨x, -, hx⟩ := List.mem_filterMap.mp hm
  cases x with
  | exchange | left => cases hx
  | entered n context =>
      cases hx
      exact .inl rfl
  | evaluated v =>
      simp only [Event.mark?] at hx
      split at hx <;> cases hx
      exact .inr rfl

theorem Led.subset {T : Set String} {steps : List Step} (h : Led w start u steps)
    (closed : T ∈ closedSets w start u) {s : Step} (hs : s ∈ steps)
    (success : s.status = .success) : s.node ∈ T := by
  -- from the last step backwards: whoever led to it stands before it
  induction steps using List.reverseRecOn generalizing s with
  | nil => cases hs
  | append_singleton steps last ih =>
      have earlier : Led w start u steps := fun before s after heq =>
        h before s (after ++ [last]) (by simp [heq])
      have ih {s : Step} := @ih earlier s
      obtain hs | hs := List.mem_append.mp hs
      · exact ih hs success
      obtain rfl := List.mem_singleton.mp hs
      by_cases first : s.node = start
      · rw [first]
        exact closed.1
      · obtain ⟨s', hs', success', v, -, yes, hc, ha, hb, n, hn, entered⟩ :=
          h steps s [] rfl success first
        rw [← hb]
        exact closed.2 n v.context entered (hn ▸ ih hs' success') v.connection hc
          (ha.trans hn.symm) yes

theorem Account.least (h : Account w start u ⟨e, []⟩) :
    IsLeast (closedSets w start u) (succeeded e) := by
  refine ⟨⟨h.succeeded_iff.mpr h.begun, fun n context entered _ c hc source yes => ?_⟩, ?_⟩
  · have evaluated := h.evaluated_of_entered entered (mem_outgoing.mpr ⟨hc, source⟩)
    exact h.succeeded_iff.mpr (h.entered_of_yes evaluated yes)
  · intro T closed id hid
    obtain ⟨s, hs, success, rfl⟩ := h.exists_success (h.succeeded_iff.mp hid)
    exact h.led.subset closed hs success

theorem Account.complete (h : Account w start u ⟨e, []⟩) : Complete w start u e where
  once := h.once
  visited id := h.succeeded_iff
  least := h.least
  evaluated := by simpa using h.owed
  skips id := by
    have counted := countP_marks (u := u) id
    rw [← h.marked, List.countP_map] at counted
    have owed : (evaluations u).Perm (due w u) := by simpa using h.owed
    rw [← owed.countP_eq]
    exact counted
  successes := by
    have marked := marks_success (u := u)
    rw [← h.marked, List.filter_map, List.map_map] at marked
    exact marked
  others s hs := mark_eq (h.marked ▸ List.mem_map_of_mem hs)
  led := h.led

/-- The record of a run that ends completed accounts for every connection of its nodes. -/
theorem completed_is_complete {data : Value} {t₀ t : List Exchange} {r : Except Failure Execution}
    (accepted : (prepare w data).Ends t₀ (.ok e)) (ran : (run w alone e).Ends t r)
    (ended : l ∈ savings t) (completed : l.status = .completed) :
    ∃ n ns u s, w.triggers = n :: ns ∧ Course w e u s t r ∧ Complete w n.id u l := by
  have prepared := prepared_of_ends accepted
  obtain ⟨u, ⟨d, stop⟩, course⟩ := course_of_ends ran
  obtain ⟨rfl, steps⟩ := course.completed prepared.running ended completed
  obtain ⟨n, ns, first⟩ := prepared.activatable.trigger
  refine ⟨n, ns, u, _, first, course, ?_⟩
  cases course with
  | intro traverses concludes =>
      exact ((traverses.account prepared first).of_steps steps).complete

theorem sample_completed_is_complete : ∃ l ∈ savings sampleRun, l.status = .completed ∧
    ∃ n ns u s r, sample.triggers = n :: ns ∧ Course sample sampleRecord u s sampleRun r ∧
      Complete sample n.id u l := by
  obtain ⟨r, ran⟩ := sample_ran
  obtain ⟨l, ended, completed⟩ : ∃ l ∈ savings sampleRun, l.status = .completed := by
    decide +kernel
  obtain ⟨n, ns, u, s, h⟩ := completed_is_complete sample_prepared ran ended completed
  exact ⟨l, ended, completed, n, ns, u, s, r, h⟩

end TriggerFlow.Engine
