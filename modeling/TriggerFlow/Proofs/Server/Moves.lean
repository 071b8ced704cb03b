import TriggerFlow.Proofs.Server.Conduct

/-!
Moves of a service without the rules of the house. The store may fail, ids may be drawn twice and
any task may come in between any two calls of another; what is to be assumed of the moves is said
where it is needed.
-/

namespace TriggerFlow.Server

open Engine Program

namespace Task

/-- A task that has come from the start of its job to where it is, by whatever replies. -/
def Continues (t : Task) : Prop :=
  ∀ u a, t.rest.Ends u a → t.job.work.Ends (t.past ++ u) a

theorem continues_start (j : Job) : (start j).Continues := fun _ _ ends => ends

theorem continues_answered {job : Job} {past : List Exchange} {c : Call} {r : Reply c}
    {next : Reply c → Work (Except Failure job.Given)} {waiting : Option Wait}
    (h : Continues ⟨job, past, .call c next, waiting⟩) :
    Continues ⟨job, past ++ [⟨c, r⟩], next r, none⟩ := by
  intro u a ends
  have whole := h _ a (.call c r ends)
  rw [List.append_cons] at whole
  exact whole

theorem Continues.next_call {P : Call → Prop} {job : Job} {past : List Exchange} {c : Call}
    {next : Reply c → Work (Except Failure job.Given)} {waiting : Option Wait}
    (h : Continues ⟨job, past, .call c next, waiting⟩)
    (all : ∀ t a, job.work.Ends t a → ∀ x ∈ t, P x.1) : P c := by
  obtain ⟨_, a, ends⟩ := exists_ends (.call c next)
  obtain ⟨r, u, -, rfl⟩ := ends_call.mp ends
  exact all _ a (h _ a ends) ⟨c, r⟩ (List.mem_append_right _ (.head _))

end Task

namespace State

variable {s s' s'' : State} {m : Move} {moves : List Move}

def follow (s : State) (moves : List Move) : Option State := moves.foldlM move s

theorem follow_cons :
    s.follow (m :: moves) = some s'' ↔ ∃ s', s.move m = some s' ∧ s'.follow moves = some s'' := by
  rw [follow, List.foldlM_cons]
  exact Option.bind_eq_some_iff

/-- What every move of a kind preserves holds after such moves. -/
theorem follow_preserves {P : State → Prop} {Q : Move → Prop} (h : s.follow moves = some s')
    (all : ∀ m ∈ moves, Q m) (start : P s)
    (step : ∀ {s m s'}, Q m → s.move m = some s' → P s → P s') : P s' := by
  induction moves generalizing s with
  | nil =>
      cases h
      exact start
  | cons m moves ih =>
      obtain ⟨s₁, moved, rest⟩ := follow_cons.mp h
      rw [List.forall_mem_cons] at all
      exact ih rest all.2 (step all.1 moved start)

/-- A move in which the task at one place goes on. -/
structure Turns (s s' : State) (i : Nat) (task task' : Task) (new : List Task) (o : Chance) :
    Prop where
  goes : Goes s.world o task task' s'.world new
  found : s.tasks[i]? = some task
  tasks : s'.tasks = s.tasks.set i task' ++ new
  drawn : s'.drawn = o.id :: s.drawn

theorem turns_of_move {i : Nat} {o : Chance} (h : s.move (.go i o) = some s') :
    ∃ task task' new, s.Turns s' i task task' new o := by
  obtain ⟨task, found, h⟩ := Option.bind_eq_some_iff.mp h
  obtain ⟨⟨task', world, new⟩, went, rfl⟩ := Option.map_eq_some_iff.mp h
  exact ⟨task, task', new, goes_of_go went, found, rfl, rfl⟩

theorem Turns.forall_tasks {P : Task → Prop} {i : Nat} {task task' : Task} {new : List Task}
    {o : Chance} (turns : s.Turns s' i task task' new o) (others : ∀ t ∈ s.tasks, P t)
    (gone : P task') (started : ∀ t ∈ new, P t) : ∀ t ∈ s'.tasks, P t := by
  intro t ht
  rw [turns.tasks, List.mem_append] at ht
  obtain ht | ht := ht
  · obtain ht | rfl := List.mem_or_eq_of_mem_set ht
    · exact others t ht
    · exact gone
  · exact started t ht

end State
end TriggerFlow.Server
