import TriggerFlow.Proofs.Run.Completion
import TriggerFlow.Proofs.Run.Preparation
import TriggerFlow.Proofs.Run.Suspension

/-!
Cancel requests. A run can be asked to stop whenever a call of it is under way. If it has begun its
walk, it stops at the next look for a request. If it has not, its first trigger is visited, and then
it stops. Either way it ends as cancelled, unless the node in flight fails.
-/

namespace TriggerFlow.Engine

open Program

variable {w : Workflow} {ticket : Ticket} {e l d : Execution} {u u₁ u₂ v : List Event}
  {t t₁ t₂ : List Exchange} {x : Exchange} {n : Node} {context : Fields}

/-- The events of a run that is asked to stop before it enters its first trigger: that is visited,
and nothing else. -/
structure Begins (w : Workflow) (e : Execution) (after : List Event) (l : Execution) : Prop where
  unevaluated : evaluations after = []
  undispatched : invocations (exchanges after) = []
  trigger : ∃ n ns, w.triggers = n :: ns ∧ entries after = [(n, e.triggerData)] ∧
    (∃ s : Step, l.steps = [s] ∧ s.node = n.id) ∧
    ∀ d ∈ savings (exchanges after), ∃ s : Step, d.steps = [s] ∧ s.node = n.id

theorem perform_trigger {r : Except Failure Fields} {ns : List Node} (first : w.triggers = n :: ns)
    (h : (perform n context).Ends t r) : t = [] ∧ ∃ output, r = .ok output := by
  have isTrigger : n.isTrigger = true := by
    have hn : n ∈ w.triggers := first ▸ List.mem_cons_self
    exact (List.mem_filter.mp hn).2
  have h := ends_perform.mp h
  split at h
  · exact h.imp_right fun hr => ⟨_, hr⟩
  · next a kind =>
    rw [Node.isTrigger, kind] at isTrigger
    cases isTrigger

/-- The first trigger of a prepared run is visited whether there was a request or not. -/
theorem Traverses.begins {r : Execution × Option Stop} (prepared : Prepared w e)
    (h : Traverses w ticket e v r) (stored : Stored (exchanges v))
    (seen : polling ticket false ∉ exchanges v) :
    Begins w e v r.1 ∧ r.2 = some (.ended (.cancelled w.id)) := by
  have only {s : Step} : (e.addStep s).steps = [s] := by
    rw [Execution.addStep, prepared.unstarted]
    rfl
  cases h with
  | triggerless none =>
      obtain ⟨n, ns, first⟩ := prepared.activatable.trigger
      cases first.symm.trans none
  | succeeded first succeeded =>
      rw [Execution.successfulStep?, prepared.unstarted] at succeeded
      cases succeeded
  | stopped first fresh visits =>
      rw [exchanges_begun] at stored
      obtain ⟨f, id, start, finish, work, -⟩ | ⟨v, -, hr⟩ := visits.work stored
      · obtain ⟨-, output, hr⟩ := perform_trigger first work
        cases hr
      · cases hr
  | @walked n ns l v t u r first fresh visits walks =>
      rw [exchanges_append, exchanges_begun, stored_append] at stored
      rw [exchanges_append, List.mem_append, not_or] at seen
      obtain ⟨rfl, rfl⟩ := walks.cancelled (List.cons_ne_nil _ _) seen.2
      obtain rfl := visits.record
      refine ⟨⟨by simp, ?_, n, ns, first, by simp, ⟨_, only, rfl⟩, ?_⟩, rfl⟩
      · rw [exchanges_append, exchanges_begun, invocations_append]
        obtain ⟨f, id, start, finish, -, hr⟩ | ⟨v', work, -⟩ := visits.work stored.1
        · cases hr
        · rw [(perform_trigger first work).1]
          rfl
      · intro d hd
        rw [exchanges_append, exchanges_begun, savings_append, List.mem_append] at hd
        obtain hd | hd := hd
        · obtain ⟨s, rfl, node⟩ := visits.of_mem_savings hd
          exact ⟨s, only, node⟩
        · cases hd

theorem Concludes.ended {err : EngineError} {c : List Exchange} {r : Except Failure Execution}
    (h : Concludes w ticket (l, some (.ended err)) c r) (stored : Stored c) :
    ∃ d, r = .ok d ∧ d.steps = l.steps ∧ d.error = some err.message ∧
      d.status = (if err.kind = .cancelled then .cancelled else .failed) ∧ Quiet (plain c) d ∧
      countings c = 0 := by
  cases h with
  | aborted taken => cases taken
  | unsaved => exact absurd stored (not_stored (.tail _ (.head _)))
  | uncounted taken completed | counted taken completed =>
      cases (concluded_completed taken completed).1
  | closed taken incomplete finish reply =>
      cases taken
      refine ⟨_, rfl, rfl, rfl, rfl, ⟨evaluations_plain _, entries_plain _, ?_, ?_⟩, rfl⟩
      · rw [exchanges_plain]
        rfl
      · rw [exchanges_plain]
        exact List.forall_mem_singleton.mpr rfl

theorem Halt.of_cancelled {s : Walk} {r : Execution × Option Stop} (h : Halt w ticket s v r)
    (stopped : r.2 = some (.ended (.cancelled w.id))) : r.1 = s.record := by
  cases h with
  | finished | cancelled => rfl
  | raised | unskipped | lost => cases stopped
  | cycle => cases congrArg EngineError.kind (Stop.ended.inj (Option.some.inj stopped))
  | stopped yes target away fresh visits =>
      cases Option.some.inj stopped
      obtain ⟨message, hm⟩ := visits.ended
      cases congrArg EngineError.kind hm

theorem Traverses.unfailed {r : Execution × Option Stop} (prepared : Prepared w e)
    (h : Traverses w ticket e v r) (stopped : r.2 = some (.ended (.cancelled w.id))) :
    ∀ s ∈ r.1.steps, s.status ≠ .failed := by
  obtain ⟨n, ns, first⟩ := prepared.activatable.trigger
  obtain ⟨_, _, _, visits, -, rfl⟩ | ⟨u', s, v', account, halt, -⟩ :=
    h.exists_halt (P := Account w n.id) prepared first
      (.first prepared (Workflow.mem_nodes_of_triggers first)) Account.turn
  · cases Option.some.inj stopped
    obtain ⟨message, hm⟩ := visits.ended
    cases congrArg EngineError.kind hm
  · rw [halt.of_cancelled stopped]
    intro step hs failed
    obtain success | skipped := mark_eq (account.marked ▸ List.mem_map_of_mem hs)
    · cases failed.symm.trans success
    · cases failed.symm.trans skipped

/-- What happens in a run from its preparation to the end of its walk, what it exchanges after that,
and what it gives. -/
inductive Story (w : Workflow) (e : Execution) (t₀ : List Exchange) :
    List Event → List Exchange → Except Failure Execution → Prop
  | intro {ticket : Ticket} {u : List Event} {s : Execution × Option Stop} {c : List Exchange}
      {r : Except Failure Execution} (traverses : Traverses w ticket e u s)
      (concludes : Concludes w ticket s c r) :
      Story w e t₀ (plain (t₀ ++ [⟨.attach e.id, ticket⟩]) ++ u) c r

/-- A run that ended as cancelled, with all its nodes done. -/
def StoppedShort (d : Execution) : Prop :=
  d.status = .cancelled ∧ d.error = some EngineError.cancelledMessage ∧
    ∀ s ∈ d.steps, s.status ≠ .failed

/-- A run that ended with the error of its last node, which was in flight already. -/
def FailedInFlight (before : List Event) (d : Execution) : Prop :=
  d.status = .failed ∧ ∃ l s s' message, lastSaved? before = some l ∧
    l.steps.getLast? = some s ∧ d.steps.getLast? = some s' ∧ (s'.id, s'.node) = (s.id, s.node) ∧
    s'.status = .failed ∧ s'.error = some message ∧ d.error = some message

theorem Settles.failedInFlight {message : String} {s : Step} (h : Settles u₁ u₂ d)
    (failed : d.status = .failed) (last : d.steps.getLast? = some s) (status : s.status = .failed)
    (error : s.error = some message) (error' : d.error = some message) : FailedInFlight u₁ d := by
  obtain ⟨l, shown, keys⟩ := h.shown
  have lasts := congrArg List.getLast? keys
  rw [stepKeys, stepKeys, List.getLast?_map, List.getLast?_map, last] at lasts
  obtain ⟨s₀, last₀, same⟩ := Option.map_eq_some_iff.mp lasts
  exact ⟨failed, l, s₀, s, message, shown, last₀, last, same.symm, status, error, error'⟩

theorem stepKeys_congr (steps : d.steps = l.steps) : stepKeys d = stepKeys l :=
  congrArg (List.map fun s : Step => (s.id, s.node)) steps

theorem Begins.append (h : Begins w e v l) (quiet : Quiet u d) (steps : d.steps = l.steps) :
    Begins w e (v ++ u) d where
  unevaluated := by rw [evaluations_append, h.unevaluated, quiet.unevaluated, List.append_nil]
  undispatched := by
    rw [exchanges_append, invocations_append, h.undispatched, quiet.undispatched, List.append_nil]
  trigger := by
    obtain ⟨n, ns, first, entered, ⟨s, only, node⟩, kept⟩ := h.trigger
    refine ⟨n, ns, first, ?_, ⟨s, steps.trans only, node⟩, ?_⟩
    · rw [entries_append, entered, quiet.unentered, List.append_nil]
    · rw [exchanges_append, savings_append, List.forall_mem_append]
      refine ⟨kept, ?_⟩
      intro d' hd
      have keys : d'.steps.map (fun s => (s.id, s.node)) = [(s.id, s.node)] := by
        have same := quiet.kept d' hd
        rw [stepKeys_congr steps] at same
        simpa [stepKeys, only] using same
      obtain ⟨s', only', same⟩ := List.map_eq_singleton_iff.mp keys
      exact ⟨s', only', (congrArg Prod.snd same).trans node⟩

/-- What becomes of a run with these events up to the end of its walk, and this exchange after it,
when it is asked to stop under the last call of the events before. -/
structure Heeds (w : Workflow) (e : Execution) (u : List Event) (c : List Exchange)
    (before after : List Event) (d : Execution) : Prop where
  boundary : Settles before after d ∨
    entries before = [] ∧ lastSaved? before = some e ∧ Begins w e after d
  outcome : before <+: u →
    (StoppedShort d ∨ FailedInFlight before d) ∧ countings (exchanges u ++ c) = 0

theorem Begins.prepend (h : Begins w e v l) {q : List Exchange} (none : savings q = [])
    (undispatched : invocations q = []) : Begins w e (plain q ++ v) l where
  unevaluated := by rw [evaluations_append, evaluations_plain, h.unevaluated, List.append_nil]
  undispatched := by
    rw [exchanges_append, exchanges_plain, invocations_append, undispatched, h.undispatched,
      List.append_nil]
  trigger := by
    rw [entries_append, entries_plain, exchanges_append, exchanges_plain, savings_append, none]
    exact h.trigger

variable {c : List Exchange} {s : Execution × Option Stop} {r : Except Failure Execution}

theorem heeds_at_start (prepared : Prepared w e) (traverses : Traverses w ticket e u s)
    (concludes : Concludes w ticket s c r) (stored : Stored (exchanges u ++ c))
    (seen : polling ticket false ∉ exchanges u) {p q : List Exchange}
    (saved : savings p = [e]) (none : savings q = []) (undispatched : invocations q = [])
    (uncounted : countings (p ++ q) = 0) :
    ∃ d, r = .ok d ∧
      Heeds w e (plain (p ++ q) ++ u) c (plain p) (plain q ++ u ++ plain c) d := by
  rw [stored_append] at stored
  obtain ⟨begins, stopped⟩ := traverses.begins prepared stored.1 seen
  have unfailed := traverses.unfailed prepared stopped
  obtain ⟨l, stop⟩ := s
  obtain rfl : stop = _ := stopped
  obtain ⟨d, hr, steps, error, status, quiet, countless⟩ := concludes.ended stored.2
  refine ⟨d, hr, .inr ⟨entries_plain p, ?_, ?_⟩,
    fun _ => ⟨.inl ⟨status, error, steps ▸ unfailed⟩, ?_⟩⟩
  · rw [lastSaved?, exchanges_plain, saved]
    rfl
  · rw [List.append_assoc]
    exact (begins.append quiet steps).prepend none undispatched
  · rw [exchanges_append, exchanges_plain, countings_append, countings_append, uncounted,
      traverses.countings, countless]

theorem heeds_in_walk (prepared : Prepared w e) (traverses : Traverses w ticket e u s)
    (concludes : Concludes w ticket s c r) (stored : Stored (exchanges u ++ c))
    (suspends : x.1.suspends = true) (cut : u = u₁ ++ .exchange x :: u₂)
    (seen : polling ticket false ∉ exchanges u₂) {p : List Exchange}
    (uncounted : countings p = 0) :
    ∃ d, r = .ok d ∧
      Heeds w e (plain p ++ u) c (plain p ++ u₁ ++ [.exchange x]) (u₂ ++ plain c) d := by
  rw [stored_append] at stored
  obtain ⟨settles, stops⟩ := traverses.settles stored.1 suspends cut seen
  have unfailed := traverses.unfailed prepared
  have total (none : countings c = 0) : countings (exchanges (plain p ++ u) ++ c) = 0 := by
    rw [exchanges_append, exchanges_plain, countings_append, countings_append, uncounted,
      traverses.countings, none]
  obtain ⟨l, stop⟩ := s
  obtain cancelled | ⟨node, message, s, broken, last, -, status, error⟩ := stops
  · obtain rfl : stop = _ := cancelled
    obtain ⟨d, hr, steps, error, status, quiet, countless⟩ := concludes.ended stored.2
    have boundary := (settles.append quiet (stepKeys_congr steps)).prepend (plain p)
    rw [← List.append_assoc] at boundary
    exact ⟨d, hr, .inl boundary,
      fun _ => ⟨.inl ⟨status, error, steps ▸ unfailed rfl⟩, total countless⟩⟩
  · obtain rfl : stop = _ := broken
    obtain ⟨d, hr, steps, error', status', quiet, countless⟩ := concludes.ended stored.2
    have boundary := (settles.append quiet (stepKeys_congr steps)).prepend (plain p)
    rw [← List.append_assoc] at boundary
    have failed := boundary.failedInFlight status' (steps ▸ last) status error error'
    exact ⟨d, hr, .inl boundary, fun _ => ⟨.inr failed, total countless⟩⟩

/-- What is exchanged before and after the registration of a new record. -/
structure Registers (e : Execution) (p : List Exchange) (told : Exchange) : Prop where
  looks : ∀ y ∈ p, Runs.IsLook y
  stays : Runs.Stays told
  saved : savings p = [e]
  unsaved : savings [told] = []
  uncounted : countings (p ++ [told]) = 0

theorem Prepares.registers {data : Value} (h : Prepares w data t (.ok e)) :
    ∃ p k told, Registers e p told ∧ t = p ++ [⟨.register e.id, k⟩, told] := by
  cases h with
  | registered fresh start given made active check k told =>
      refine ⟨[_, _, _], k, telling e.id "status" [("status", .str e.status.name)] told, ?_, rfl⟩
      exact ⟨by simp [Runs.IsLook, saving], trivial, rfl, rfl, rfl⟩

theorem cut_prepared {p : List Exchange} {told : Exchange} {id : String} {k j : Ticket}
    (suspends : x.1.suspends = true)
    (cut : p ++ [⟨.register id, k⟩, told, ⟨.attach id, j⟩] = t₁ ++ x :: t₂) :
    (∃ q, p = t₁ ++ x :: q) ∨
      (t₁ = p ++ [⟨.register id, k⟩] ∧ x = told ∧ t₂ = [⟨.attach id, j⟩]) ∨
      (t₁ = p ++ [⟨.register id, k⟩, told] ∧ x = ⟨.attach id, j⟩ ∧ t₂ = []) := by
  obtain ⟨q, hp, -⟩ | ⟨q, rfl, hq⟩ := cut_append cut
  · exact .inl ⟨q, hp⟩
  · revert suspends
    refine forall_cuts hq ?_
    simp only [cuts, List.map_cons, List.map_nil, List.forall_mem_cons]
    exact ⟨unsuspended, fun _ => .inr (.inl (by simp)), fun _ => .inr (.inr (by simp)),
      List.forall_mem_nil _⟩

namespace Registers

variable {p : List Exchange} {told : Exchange} {k j : Ticket} {s₀ s₁ s₂ s₃ : Runs}

/-- The run goes on under the ticket of its preparation. -/
theorem ticket_eq (h : Registers e p told)
    (shared : Runs.Shared e.id s₀ (p ++ [⟨.register e.id, k⟩, told] ++ ⟨.attach e.id, j⟩ :: t) s₃) :
    j = k := by
  obtain ⟨s, first, rest⟩ := Amid.of_append shared
  have rest : Runs.Shared e.id s ([] ++ ⟨.attach e.id, j⟩ :: t) s₃ := rest
  have holds := Runs.Shared.registered first (List.forall_mem_singleton.mpr h.stays)
  exact Runs.Shared.attached rest (List.forall_mem_nil _) holds

theorem savings_eq (h : Registers e p told) {q : List Exchange} (unsaved : savings q = []) :
    savings (p ++ [⟨.register e.id, k⟩, told] ++ q) = [e] := by
  rw [savings_append, savings_append, h.saved, unsaved, List.append_nil]
  exact congrArg (e :: ·) h.unsaved

theorem countings_eq (h : Registers e p told) :
    countings (p ++ [⟨.register e.id, k⟩, told, ⟨.attach e.id, j⟩]) = 0 := by
  have uncounted := h.uncounted
  rw [countings_append] at uncounted ⊢
  exact uncounted

theorem heeds (h : Registers e p told) (prepared : Prepared w e) (traverses : Traverses w k e u s)
    (concludes : Concludes w k s c r) (stored : Stored (exchanges u ++ c))
    (new : s₀.ticket? e.id = none) (before : Runs.Shared e.id s₀ (exchanges u₁) s₁)
    (asked : s₁.requestCancel e.id = (true, s₂))
    (after : Runs.Shared e.id s₂ (x :: exchanges u₂) s₃) (suspends : x.1.suspends = true)
    (cut : plain (p ++ [⟨.register e.id, k⟩, told, ⟨.attach e.id, k⟩]) ++ u ++ plain c =
      u₁ ++ .exchange x :: u₂) :
    ∃ d, r = .ok d ∧
      Heeds w e (plain (p ++ [⟨.register e.id, k⟩, told, ⟨.attach e.id, k⟩]) ++ u) c
        (u₁ ++ [.exchange x]) u₂ d := by
  have heard (q : List Exchange) (reached : exchanges u₁ = p ++ ⟨.register e.id, k⟩ :: q)
      (stays : ∀ y ∈ q, Runs.Stays y) : polling k false ∉ exchanges u₂ := by
    rw [reached] at before
    have missed := Runs.Shared.heard asked (Runs.Shared.registered before stays) after
    simp only [List.mem_cons, not_or] at missed
    exact missed.2
  obtain ⟨v, early, rfl⟩ | ⟨c₁, rfl, late⟩ := cut_append cut
  · obtain ⟨v', starting, rfl⟩ | ⟨v', rfl, walking⟩ := cut_append early
    · obtain ⟨a, b, within, rfl, rfl⟩ := plain_eq_append_cons starting
      obtain ⟨q, rfl⟩ | ⟨rfl, rfl, rfl⟩ | ⟨rfl, rfl, rfl⟩ := cut_prepared suspends within
      · -- the run is not registered yet
        rw [exchanges_plain] at before
        exact absurd asked
          (Runs.Shared.unheard new before fun y hy => h.looks y (List.mem_append_left _ hy))
      · have seen := heard [] (by simp) (List.forall_mem_nil _)
        simp only [exchanges_append, List.mem_append, not_or] at seen
        simpa [plain] using heeds_at_start prepared traverses concludes stored seen.1.2
          (h.savings_eq (q := []) rfl) (q := [⟨.attach e.id, k⟩]) rfl rfl
          (by simpa using h.countings_eq)
      · have seen := heard [told] (by simp) (List.forall_mem_singleton.mpr h.stays)
        rw [exchanges_append, List.mem_append, not_or] at seen
        simpa [plain] using heeds_at_start prepared traverses concludes stored seen.1
          (h.savings_eq (q := [⟨.attach e.id, k⟩]) rfl) (q := []) rfl rfl
          (by simpa using h.countings_eq)
    · have working : ∀ y ∈ exchanges v', Runs.Stays y := fun y hy =>
        (traverses.working y (by simp [walking, hy])).stays
      have seen := heard (told :: ⟨.attach e.id, k⟩ :: exchanges v') (by simp)
        (List.forall_mem_cons.mpr ⟨h.stays, List.forall_mem_cons.mpr ⟨trivial, working⟩⟩)
      rw [exchanges_append, List.mem_append, not_or] at seen
      exact heeds_in_walk prepared traverses concludes stored suspends walking seen.1 h.countings_eq
  · obtain ⟨a, b, rfl, rfl, rfl⟩ := plain_eq_append_cons late
    rw [stored_append] at stored
    obtain ⟨q, rfl⟩ | ⟨-, d, rfl, settles⟩ := concludes.settles stored.2 suspends rfl
    · -- the run has left the registry
      rw [exchanges_append, exchanges_plain, ← List.append_assoc, traverses.onlySteps.id] at before
      exact absurd asked (Runs.Shared.released before)
    · refine ⟨d, rfl, .inl ?_, ?_⟩
      · rw [List.append_assoc]
        exact settles.prepend _
      · intro early
        have shorter := early.length_le
        simp only [List.length_append, List.length_singleton] at shorter
        omega

end Registers

/-- Cancellation takes effect at the next node boundary. A request that reaches a run while a call
of it is under way lets it do nothing more than finish the visit it is at, or visit its first
trigger if it has not begun. If the walk is not over yet, the run ends cancelled and is not counted,
unless the node in flight fails. -/
theorem run_heeds_cancel {data : Value} {t₀ : List Exchange} {s₀ s₁ s₂ s₃ : Runs}
    (accepted : (prepare w data).Ends t₀ (.ok e)) (ran : (run w alone e).Ends t r)
    (stored : Stored (t₀ ++ t)) (new : s₀.ticket? e.id = none)
    (before : Runs.Shared e.id s₀ t₁ s₁) (asked : s₁.requestCancel e.id = (true, s₂))
    (after : Runs.Shared e.id s₂ (x :: t₂) s₃) (cut : t₀ ++ t = t₁ ++ x :: t₂)
    (suspends : x.1.suspends = true) :
    ∃ u c d u₁ u₂, Story w e t₀ u c r ∧ t₀ ++ t = exchanges u ++ c ∧
      u ++ plain c = u₁ ++ .exchange x :: u₂ ∧ exchanges u₁ = t₁ ∧ exchanges u₂ = t₂ ∧
      r = .ok d ∧ Heeds w e u c (u₁ ++ [.exchange x]) u₂ d := by
  have shared : Runs.Shared e.id s₀ (t₀ ++ t) s₃ := by
    rw [cut]
    refine before.append (.other ?_ after)
    have cancel : Runs.Meddles e.id s₁ (s₁.requestCancel e.id).2 := .cancel s₁ e.id
    rwa [asked] at cancel
  obtain ⟨u, s, course⟩ := course_of_ends ran
  cases course with
  | @intro ticket u s c r traverses concludes =>
  obtain ⟨p, k, told, registers, rfl⟩ := (prepares_of_ends accepted).registers
  obtain rfl : ticket = k := registers.ticket_eq shared
  rw [stored_append] at stored
  have walked : Stored (exchanges u ++ c) := (stored_cons.mp stored.2).2
  have events : exchanges (plain (p ++ [⟨.register e.id, ticket⟩, told, ⟨.attach e.id, ticket⟩]) ++
      u ++ plain c) = t₁ ++ x :: t₂ := by
    simpa using cut
  obtain ⟨u₁, u₂, within, rfl, rfl⟩ := exchanges_eq_append_cons events
  obtain ⟨d, hr, heeds⟩ := registers.heeds (prepared_of_ends accepted) traverses concludes walked
    new before asked after suspends within
  refine ⟨_, c, d, u₁, u₂, .intro traverses concludes, ?_, ?_, rfl, rfl, hr, ?_⟩
  · simp
  · simpa using within
  · simpa using heeds

/-- Calm surroundings that keep a registry. -/
def registering : (c : Call) → Runs → Reply c × Runs
  | .register id, r => r.register id
  | .attach id, r => r.attach id
  | .release id k, r => ((), r.release id k)
  | .isCancelled k, r => (r.isCancelled k, r)
  | .requestCancel id, r => r.requestCancel id
  | .isRunning id, r => ((r.ticket? id).isSome, r)
  | c, r => ((calm c ()).1, r)

theorem answers_registering (c : Call) (r : Runs) :
    r.Answers ⟨c, (registering c r).1⟩ (registering c r).2 := by
  cases c with
  | isCancelled | isRunning => exact ⟨rfl, rfl⟩
  | _ => rfl

theorem stored_registering {α : Type} (p : Work α) (r : Runs) :
    Stored (p.exchange registering r) := by
  intro c f h
  obtain ⟨_, reply⟩ := mem_exchange h
  cases reply

/-- The sample is asked to stop while the listener is told that it was prepared. -/
theorem sample_heeds_cancel : ∃ t₁ x t₂ r s₁ s₂ u c d u₁ u₂,
    Runs.Shared "" .empty t₁ s₁ ∧ s₁.requestCancel "" = (true, s₂) ∧
      Story sample sampleRecord ((prepare sample .null).exchange registering .empty) u c r ∧
      u ++ plain c = u₁ ++ .exchange x :: u₂ ∧ exchanges u₁ = t₁ ∧ exchanges u₂ = t₂ ∧
      r = .ok d ∧ Heeds sample sampleRecord u c (u₁ ++ [.exchange x]) u₂ d := by
  have accepted := ends_run registering (prepare sample .null) .empty
  have ran := ends_run registering (run sample alone sampleRecord) ⟨[("", 0)], [⟨true, false⟩]⟩
  have before : Runs.Shared "" .empty [⟨.freshId, ""⟩, ⟨.now, .utc 0⟩,
      saving sampleRecord (.ok ()), ⟨.register "", (0 : Nat)⟩] ⟨[("", 0)], [⟨false, false⟩]⟩ :=
    .call rfl (.call rfl (.call rfl (.call rfl (.nil _))))
  have after : Runs.Shared "" ⟨[("", 0)], [⟨true, false⟩]⟩
      ((run sample alone sampleRecord).exchange registering ⟨[("", 0)], [⟨true, false⟩]⟩)
      ((run sample alone sampleRecord).run registering ⟨[("", 0)], [⟨true, false⟩]⟩).2 :=
    amid_exchange answers_registering _ _
  have stored : Stored ((prepare sample .null).exchange registering .empty ++
      (run sample alone sampleRecord).exchange registering ⟨[("", 0)], [⟨true, false⟩]⟩) := by
    rw [stored_append]
    exact ⟨stored_registering _ _, stored_registering _ _⟩
  obtain ⟨u, c, d, u₁, u₂, story, -, cut, h₁, h₂, hr, heeds⟩ :=
    run_heeds_cancel (e := sampleRecord)
      (x := telling "" "status" [("status", .str "running")] (.ok ()))
      accepted ran stored rfl before rfl (.call rfl after) rfl rfl
  exact ⟨_, _, _, _, _, _, u, c, d, u₁, u₂, before, rfl, story, cut, h₁, h₂, hr, heeds⟩

end TriggerFlow.Engine
