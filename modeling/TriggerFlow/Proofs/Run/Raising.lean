import TriggerFlow.Proofs.Run.Account
import TriggerFlow.Proofs.Run.Preparation

/-!
Runs that are taken down. Where the store does not fail, nothing takes a run down but the conditions
of a connection that raise; such a run leaves the registry without having stored an end.
-/

namespace TriggerFlow.Engine

open Program

variable {w : Workflow} {ticket : Ticket} {e l : Execution} {f : Failure} {u v : List Event}
  {t : List Exchange}

/-- An evaluation raises this failure. -/
def Raises (u : List Event) (f : Failure) : Prop := ∃ x ∈ evaluations u, x.result = .error f

theorem Visits.not_aborted {n : Node} {context : Fields}
    (h : Visits w e n context t (.error (l, .aborted f))) : ¬ Stored t := by
  intro stored
  obtain ⟨_, _, _, _, -, failed⟩ | ⟨_, -, succeeded⟩ := h.work stored
  · cases failed
  · cases succeeded

theorem Account.raises_of_halt {start : String} {s : Walk} (h : Account w start u s)
    (halt : Halt w ticket s v (l, some (.aborted f))) (activatable : w.Activatable)
    (stored : Stored (exchanges v)) : Raises v f := by
  cases halt with
  | raised raises => exact ⟨_, .head _, raises⟩
  | unskipped no skips =>
      rw [exchanges_looked] at stored
      exact absurd (stored_cons.mp stored).2 skips.not_stored
  | lost yes target =>
      have found := activatable.node?_isSome h.source_connection.1
      rw [target] at found
      cases found
  | stopped yes target away fresh visits =>
      rw [exchanges_stepped] at stored
      exact absurd (stored_cons.mp stored).2 visits.not_aborted

theorem Traverses.raises (prepared : Prepared w e)
    (h : Traverses w ticket e u (l, some (.aborted f))) (stored : Stored (exchanges u)) :
    Raises u f := by
  obtain ⟨n, ns, first⟩ := prepared.activatable.trigger
  obtain ⟨_, _, _, visits, rfl, stop⟩ | ⟨u', s, v, account, halt, rfl⟩ :=
    h.exists_halt (P := Account w n.id) prepared first
      (.first prepared (Workflow.mem_nodes_of_triggers first)) Account.turn
  · cases stop
    rw [exchanges_begun] at stored
    exact absurd stored visits.not_aborted
  · rw [exchanges_append] at stored
    obtain ⟨x, hx, raises⟩ :=
      account.raises_of_halt halt prepared.activatable ((stored_append _ _).mp stored).2
    refine ⟨x, ?_, raises⟩
    rw [evaluations_append]
    exact List.mem_append_right _ hx

/-- A run that was taken down by an evaluation that raised, with its whole exchange. -/
def Raised (w : Workflow) (e : Execution) (t : List Exchange) : Prop :=
  ∃ u s f, Course w e u s t (.error f) ∧ Raises u f

theorem eq_aborted_of_concluded {stop : Option Stop} (h : concluded l stop = .error f) :
    stop = some (.aborted f) := by
  unfold concluded at h
  split at h <;> cases h
  rfl

theorem Traverses.raised {s : Execution × Option Stop} (prepared : Prepared w e)
    (h : Traverses w ticket e u s) (taken : concluded s.1 s.2 = .error f)
    (stored : Stored (exchanges u)) :
    Raised w e (⟨.attach e.id, ticket⟩ :: exchanges u ++ [⟨.release e.id ticket, ()⟩]) := by
  obtain ⟨l, stop⟩ := s
  obtain rfl : stop = some (.aborted f) := eq_aborted_of_concluded taken
  have left : Concludes w ticket (l, some (.aborted f)) [⟨.release l.id ticket, ()⟩] (.error f) :=
    .aborted taken
  rw [(h.onlySteps.id :)] at left
  exact ⟨u, _, f, .intro h left, h.raises prepared stored⟩

/-- Over a store that saves, a run is taken down by an evaluation that raises or gives the record
that its walk left, concluded. -/
theorem raised_or_concluded {r : Except Failure Execution} (prepared : Prepared w e)
    (ran : (run w alone e).Ends t r) (stored : Stored t) :
    (∃ f, r = .error f ∧ Raised w e t) ∨ ∃ ticket u l stop c ended finish,
      Traverses w ticket e u (l, stop) ∧ Stored (exchanges u) ∧ concluded l stop = .ok ended ∧
        r = .ok { ended with completedAt := some finish } ∧ Concludes w ticket (l, stop) c r ∧
          t = ⟨.attach e.id, ticket⟩ :: exchanges u ++ c := by
  obtain ⟨u, ⟨l, stop⟩, course⟩ := course_of_ends ran
  have run := course
  obtain @⟨ticket, _, _, c, _, traverses, concludes⟩ := course
  rw [stored_append] at stored
  have walked : Stored (exchanges u) := (stored_cons.mp stored.1).2
  obtain ⟨f, taken, rfl⟩ | ⟨ended, finish, taken, rfl⟩ := concludes.of_stored stored.2
  · refine .inl ⟨f, rfl, ?_⟩
    obtain rfl : stop = some (.aborted f) := eq_aborted_of_concluded taken
    exact ⟨u, _, f, run, traverses.raises prepared walked⟩
  · exact .inr ⟨ticket, u, l, stop, c, ended, finish, traverses, walked, taken, rfl, concludes, rfl⟩

end TriggerFlow.Engine
