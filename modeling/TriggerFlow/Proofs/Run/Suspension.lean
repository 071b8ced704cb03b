import TriggerFlow.Proofs.Run.Course
import TriggerFlow.Proofs.Run.Registry

/-!
The calls under which a run can be suspended, and what is left of the run from such a call to the
next look for a cancel request: it finishes the visit or the skip that the call belongs to, and
comes to the look with the node in flight still on its path; so nothing is evaluated, entered or
added to the record any more.
-/

namespace TriggerFlow.Engine

open Program

variable {w : Workflow} {ticket : Ticket} {e l d : Execution} {u u₁ u₂ v : List Event}
  {t t₁ t₂ : List Exchange} {x : Exchange}

/-- Calls under which a run can be suspended, and the one it begins with. -/
def Call.suspends : Call → Bool
  | .store _ | .invoke _ _ _ | .notify _ _ _ | .attach _ => true
  | _ => false

/-- What is said of calls under which a run is suspended holds of any other. -/
theorem unsuspended {P : Prop} (h : false = true) : P := absurd h Bool.false_ne_true

/-- The steps of a record as far as they never change. -/
def stepKeys (e : Execution) : List (String × String) := e.steps.map fun s => (s.id, s.node)

def lastSaved? (u : List Event) : Option Execution := (savings (exchanges u)).getLast?

theorem lastSaved?_append (u v : List Event) :
    lastSaved? (u ++ v) = (lastSaved? v).or (lastSaved? u) := by
  rw [lastSaved?, exchanges_append, savings_append, List.getLast?_append]
  rfl

/-- The work of a node that was entered and whose running step is the last that was saved. -/
def InFlight (before : List Event) (x : Exchange) : Prop :=
  ∃ n context a reply l s, (n, context) ∈ entries before ∧ n.kind = .action a ∧
    lastSaved? before = some l ∧ l.steps.getLast? = some s ∧ s.node = n.id ∧
    s.status = .running ∧ x = ⟨.invoke a n.config (.obj context), reply⟩

/-- From some point of a run on, no node is entered, no connection is evaluated and the record keeps
its steps; at most the work of the node in flight is still to be dispatched. -/
structure Settles (before after : List Event) (l : Execution) : Prop where
  unevaluated : evaluations after = []
  unentered : entries after = []
  dispatched : invocations (exchanges after) = [] ∨
    ∃ x, InFlight before x ∧ invocations (exchanges after) = [x]
  shown : ∃ d, lastSaved? before = some d ∧ stepKeys d = stepKeys l
  kept : ∀ d ∈ savings (exchanges after), stepKeys d = stepKeys l

/-- Events in which nothing is done but what a record with these steps goes through. -/
structure Quiet (after : List Event) (l : Execution) : Prop where
  unevaluated : evaluations after = []
  unentered : entries after = []
  undispatched : invocations (exchanges after) = []
  kept : ∀ d ∈ savings (exchanges after), stepKeys d = stepKeys l

theorem Settles.prepend (h : Settles u₁ u₂ l) (v : List Event) : Settles (v ++ u₁) u₂ l := by
  obtain ⟨d, shown, keys⟩ := h.shown
  have still : lastSaved? (v ++ u₁) = lastSaved? u₁ := by
    rw [lastSaved?_append, shown]
    rfl
  refine { h with dispatched := ?_, shown := ⟨d, still.trans shown, keys⟩ }
  refine h.dispatched.imp_right ?_
  rintro ⟨x, ⟨n, context, a, reply, l, s, entered, rest⟩, hx⟩
  refine ⟨x, ⟨n, context, a, reply, l, s, ?_, still ▸ rest⟩, hx⟩
  rw [entries_append]
  exact List.mem_append_right _ entered

theorem Settles.append (h : Settles u₁ u₂ l) (quiet : Quiet v d) (keys : stepKeys d = stepKeys l) :
    Settles u₁ (u₂ ++ v) d where
  unevaluated := by rw [evaluations_append, h.unevaluated, quiet.unevaluated, List.append_nil]
  unentered := by rw [entries_append, h.unentered, quiet.unentered, List.append_nil]
  dispatched := by
    rw [exchanges_append, invocations_append, quiet.undispatched, List.append_nil]
    exact h.dispatched
  shown := by
    obtain ⟨d', shown, same⟩ := h.shown
    exact ⟨d', shown, same.trans keys.symm⟩
  kept := by
    rw [exchanges_append, savings_append, List.forall_mem_append]
    refine ⟨?_, quiet.kept⟩
    intro d' hd
    exact (h.kept d' hd).trans keys.symm

theorem exchanges_eq_append_cons (h : exchanges u = t₁ ++ x :: t₂) :
    ∃ u₁ u₂, u = u₁ ++ .exchange x :: u₂ ∧ exchanges u₁ = t₁ ∧ exchanges u₂ = t₂ := by
  induction u generalizing t₁ with
  | nil => simp at h
  | cons y u ih =>
      have later {t} (hu : exchanges u = t ++ x :: t₂) (ht : y.exchange?.toList ++ t = t₁) :
          ∃ u₁ u₂, y :: u = u₁ ++ .exchange x :: u₂ ∧ exchanges u₁ = t₁ ∧ exchanges u₂ = t₂ := by
        obtain ⟨u₁, u₂, rfl, rfl, rfl⟩ := ih hu
        exact ⟨y :: u₁, u₂, rfl, by rw [exchanges_cons, ht], rfl⟩
      rw [exchanges_cons] at h
      cases y with
      | exchange z =>
          cases t₁ with
          | nil =>
              obtain ⟨rfl, rfl⟩ := List.cons.inj h
              exact ⟨[], u, rfl, rfl, rfl⟩
          | cons z' t₁ =>
              obtain ⟨rfl, hu⟩ := List.cons.inj h
              exact later hu rfl
      | entered | evaluated | left => exact later h rfl

theorem plain_eq_append_cons (h : plain t = u₁ ++ .exchange x :: u₂) :
    ∃ t₁ t₂, t = t₁ ++ x :: t₂ ∧ u₁ = plain t₁ ∧ u₂ = plain t₂ := by
  obtain ⟨t₁, rest, rfl, rfl, hr⟩ := List.map_eq_append_iff.mp h
  obtain ⟨y, t₂, rfl, hy, rfl⟩ := List.map_eq_cons_iff.mp hr
  cases hy
  exact ⟨t₁, t₂, rfl, rfl, rfl⟩

/-- The ways to cut a list at one of its elements. -/
def cuts {α : Type} : List α → List (List α × α × List α)
  | [] => []
  | a :: as => ([], a, as) :: (cuts as).map fun c => (a :: c.1, c.2.1, c.2.2)

theorem mem_cuts {α : Type} {a : α} {as bs cs : List α} (h : as = bs ++ a :: cs) :
    (bs, a, cs) ∈ cuts as := by
  induction bs generalizing as with
  | nil =>
      subst h
      exact List.mem_cons_self
  | cons b bs ih =>
      subst h
      exact List.mem_cons_of_mem _ (List.mem_map_of_mem (ih rfl))

theorem cut_append {α : Type} {a : α} {as bs cs ds : List α} (h : as ++ bs = cs ++ a :: ds) :
    (∃ es, as = cs ++ a :: es ∧ ds = es ++ bs) ∨ ∃ es, cs = as ++ es ∧ bs = es ++ a :: ds := by
  obtain ⟨es, rfl, hb⟩ | ⟨es, rfl, hd⟩ := List.append_eq_append_iff.mp h
  · exact .inr ⟨es, rfl, hb⟩
  · cases es with
    | nil => exact .inr ⟨[], by simp, hd.symm⟩
    | cons b es =>
        obtain ⟨rfl, rfl⟩ := List.cons.inj hd
        exact .inl ⟨es, rfl, rfl⟩

@[elab_as_elim] theorem forall_cuts {α : Type} {a : α} {as bs cs : List α}
    {P : List α → α → List α → Prop} (h : as = bs ++ a :: cs)
    (all : ∀ c ∈ cuts as, P c.1 c.2.1 c.2.2) : P bs a cs :=
  all _ (mem_cuts h)

theorem settles_told
    (shown : ∃ d, (savings (t₁ ++ [x])).getLast? = some d ∧ stepKeys d = stepKeys l)
    (kept : ∀ d ∈ savings t₂, stepKeys d = stepKeys l) (undispatched : invocations t₂ = []) :
    Settles (plain t₁ ++ [.exchange x]) (plain t₂) l := by
  refine ⟨evaluations_plain _, entries_plain _, .inl ?_, ?_, ?_⟩
  · rwa [exchanges_plain]
  · simpa [lastSaved?] using shown
  · rwa [exchanges_plain]

theorem settles_dispatching {n : Node} {context : Fields} {a : Action}
    {reply : Except Failure Value} {s : Step} (kind : n.kind = .action a)
    (saved : (savings (t₁ ++ [x])).getLast? = some d) (last : d.steps.getLast? = some s)
    (node : s.node = n.id) (status : s.status = .running) (keys : stepKeys d = stepKeys l)
    (kept : ∀ d ∈ savings t₂, stepKeys d = stepKeys l)
    (one : invocations t₂ = [⟨.invoke a n.config (.obj context), reply⟩]) :
    Settles (.entered n context :: plain t₁ ++ [.exchange x]) (plain t₂) l := by
  have shown : lastSaved? (.entered n context :: plain t₁ ++ [.exchange x]) = some d := by
    simpa [lastSaved?] using saved
  have flying : InFlight (.entered n context :: plain t₁ ++ [.exchange x])
      ⟨.invoke a n.config (.obj context), reply⟩ :=
    ⟨n, context, a, reply, d, s, by simp, kind, shown, last, node, status, rfl⟩
  refine ⟨evaluations_plain _, entries_plain _, .inr ⟨_, flying, ?_⟩, ⟨d, shown, keys⟩, ?_⟩
  · rwa [exchanges_plain]
  · rwa [exchanges_plain]

/-- The call under way belongs to the visit of a node, whose step is in the record already. -/
theorem settles_visit {n : Node} {context : Fields} {fresh : String} {start finish : Moment}
    {told reply : Except Failure Unit} {event : String} {data : Fields} {s : Step}
    {p : Except Failure Fields} (work : (perform n context).Ends t p)
    (same : (s.id, s.node) = (stepName fresh, n.id)) (suspends : x.1.suspends = true)
    (cut : beginning e n fresh start told ++ t ++ [⟨.now, finish⟩, saving (e.addStep s) (.ok ()),
      telling e.id event data reply] = t₁ ++ x :: t₂) :
    Settles (.entered n context :: plain t₁ ++ [.exchange x]) (plain t₂) (e.addStep s) := by
  have keys : stepKeys (e.addStep (runningStep n (stepName fresh) start)) =
      stepKeys (e.addStep s) := by
    simp only [stepKeys, Execution.addStep, List.map_append, List.map_singleton, same]
    rfl
  have last : (e.addStep (runningStep n (stepName fresh) start)).steps.getLast? =
      some (runningStep n (stepName fresh) start) := by
    simp [Execution.addStep]
  have final : ∀ d ∈ [e.addStep s], stepKeys d = stepKeys (e.addStep s) :=
    List.forall_mem_singleton.mpr rfl
  have none : ∀ d ∈ ([] : List Execution), stepKeys d = stepKeys (e.addStep s) :=
    List.forall_mem_nil _
  have settled {t₁ t₂ : List Exchange} {x : Exchange}
      (shown : ∃ d, (savings (t₁ ++ [x])).getLast? = some d ∧ stepKeys d = stepKeys (e.addStep s))
      (kept : ∀ d ∈ savings t₂, stepKeys d = stepKeys (e.addStep s)) (none : invocations t₂ = []) :
      Settles (.entered n context :: plain t₁ ++ [.exchange x]) (plain t₂) (e.addStep s) :=
    (settles_told shown kept none).prepend [.entered n context]
  revert suspends
  refine forall_cuts cut ?_
  -- up to the last save of the visit its step is shown as running, then as it is to stay
  have work := ends_perform.mp work
  split at work
  · obtain ⟨rfl, -⟩ := work
    simp only [beginning, List.append_nil, List.cons_append, List.nil_append, cuts, List.map_cons,
      List.map_nil, List.forall_mem_cons]
    exact ⟨unsuspended, unsuspended, fun _ => settled ⟨_, rfl, keys⟩ final rfl,
      fun _ => settled ⟨_, rfl, keys⟩ final rfl, unsuspended,
      fun _ => settled ⟨_, rfl, rfl⟩ none rfl,
      fun _ => settled ⟨_, rfl, rfl⟩ none rfl, List.forall_mem_nil _⟩
  · next a kind =>
    obtain ⟨given, rfl, -⟩ := work
    simp only [beginning, List.cons_append, List.nil_append, cuts, List.map_cons,
      List.map_nil, List.forall_mem_cons]
    exact ⟨unsuspended, unsuspended,
      fun _ => settles_dispatching kind rfl last rfl rfl keys final rfl,
      fun _ => settles_dispatching kind rfl last rfl rfl keys final rfl,
      fun _ => settled ⟨_, rfl, keys⟩ final rfl, unsuspended,
      fun _ => settled ⟨_, rfl, rfl⟩ none rfl,
      fun _ => settled ⟨_, rfl, rfl⟩ none rfl, List.forall_mem_nil _⟩

variable {n : Node} {context : Fields}

def visited : Except (Execution × Stop) (Execution × Visit) → Execution
  | .error (l, _) => l
  | .ok (l, _) => l

theorem Visits.settles {r : Except (Execution × Stop) (Execution × Visit)}
    (h : Visits w e n context t r) (stored : Stored t) (suspends : x.1.suspends = true)
    (cut : t = t₁ ++ x :: t₂) :
    Settles (.entered n context :: plain t₁ ++ [.exchange x]) (plain t₂)
      (visited r) := by
  cases h with
  | unbegun => exact absurd stored (not_stored (.tail _ (.tail _ (.head _))))
  | failedUnsaved | succeededUnsaved =>
      exact absurd stored (not_stored (List.mem_append_right _ (.tail _ (.head _))))
  | failed fresh start finish told reply work => exact settles_visit work rfl suspends cut
  | succeeded fresh start finish told reply work => exact settles_visit work rfl suspends cut

theorem Skips.settles {c : Connection} (h : Skips w e c t (l, .ok ()))
    (suspends : x.1.suspends = true) (cut : t = t₁ ++ x :: t₂) :
    Settles (plain t₁ ++ [.exchange x]) (plain t₂) l := by
  cases h with
  | saved time fresh reply =>
      revert suspends
      refine forall_cuts cut ?_
      simp only [cuts, List.map_cons, List.map_nil, List.forall_mem_cons]
      exact ⟨unsuspended, unsuspended,
        fun _ => settles_told ⟨_, rfl, rfl⟩ (List.forall_mem_nil _) rfl,
        fun _ => settles_told ⟨_, rfl, rfl⟩ (List.forall_mem_nil _) rfl, List.forall_mem_nil _⟩

/-- The walk was ended by the failure of its last node. -/
def Broken (w : Workflow) (r : Execution × Option Stop) : Prop :=
  ∃ node message s, r.2 = some (.ended (.nodeFailed message node w.id)) ∧
    r.1.steps.getLast? = some s ∧ s.node = node ∧ s.status = .failed ∧ s.error = some message

theorem Visits.broken {stop : Stop} (h : Visits w e n context t (.error (l, stop)))
    (stored : Stored t) : Broken w (l, some stop) := by
  obtain ⟨f, id, start, finish, -, hr⟩ | ⟨v, -, hr⟩ := h.work stored
  · cases hr
    exact ⟨n.id, f.shown, failedStep n id start finish f.shown, rfl, by simp [Execution.addStep],
      rfl, rfl, rfl⟩
  · cases hr

theorem cut_cons {y : Event} (h : y :: v = u₁ ++ .exchange x :: u₂) (other : y ≠ .exchange x) :
    ∃ u, u₁ = y :: u ∧ v = u ++ .exchange x :: u₂ := by
  obtain ⟨-, h⟩ | h := List.cons_eq_append_iff.mp h
  · exact absurd (List.cons.inj h).1.symm other
  · exact h

theorem polling_ne {requested : Bool} (suspends : x.1.suspends = true) :
    Event.exchange (polling ticket requested) ≠ .exchange x := by
  intro h
  cases h
  cases suspends

theorem cut_looked {z : Evaluation} {requested : Bool} (suspends : x.1.suspends = true)
    (h : .exchange (polling ticket requested) :: .evaluated z :: v = u₁ ++ .exchange x :: u₂) :
    ∃ u, u₁ = [.exchange (polling ticket requested), .evaluated z] ++ u ∧
      v = u ++ .exchange x :: u₂ := by
  obtain ⟨u, rfl, h₁⟩ := cut_cons h (polling_ne suspends)
  obtain ⟨u, rfl, h₂⟩ := cut_cons h₁ nofun
  exact ⟨u, rfl, h₂⟩

theorem Visits.settles_within {r : Except (Execution × Stop) (Execution × Visit)}
    (h : Visits w e n context t r) (stored : Stored t) (suspends : x.1.suspends = true)
    (cut : .entered n context :: plain t = u₁ ++ .exchange x :: u₂) :
    Settles (u₁ ++ [.exchange x]) u₂ (visited r) := by
  obtain ⟨u, rfl, within⟩ := cut_cons cut nofun
  obtain ⟨t₁, t₂, rfl, rfl, rfl⟩ := plain_eq_append_cons within
  exact h.settles stored suspends rfl

theorem Turn.settles {s s' : Walk} (h : Turn w ticket s v s') (stored : Stored (exchanges v))
    (suspends : x.1.suspends = true) (cut : v = u₁ ++ .exchange x :: u₂) :
    Settles (u₁ ++ [.exchange x]) u₂ s'.record ∧ s'.frames ≠ [] := by
  cases h with
  | leave =>
      obtain ⟨u, rfl, h₁⟩ := cut_cons cut (polling_ne suspends)
      obtain ⟨u, rfl, h₂⟩ := cut_cons h₁ nofun
      simp at h₂
  | pass =>
      obtain ⟨u, rfl, h⟩ := cut_looked suspends cut
      simp at h
  | skip no skips =>
      obtain ⟨u, rfl, within⟩ := cut_looked suspends cut
      obtain ⟨t₁, t₂, rfl, rfl, rfl⟩ := plain_eq_append_cons within
      rw [List.append_assoc]
      exact ⟨(skips.settles suspends rfl).prepend _, List.cons_ne_nil _ _⟩
  | enter yes target away fresh visits =>
      rw [exchanges_stepped, stored_cons] at stored
      obtain ⟨u, rfl, within⟩ := cut_looked suspends cut
      rw [List.append_assoc]
      exact ⟨(visits.settles_within stored.2 suspends within).prepend _, List.cons_ne_nil _ _⟩

theorem Halt.settles {s : Walk} {r : Execution × Option Stop} (h : Halt w ticket s v r)
    (stored : Stored (exchanges v)) (suspends : x.1.suspends = true)
    (cut : v = u₁ ++ .exchange x :: u₂) :
    Settles (u₁ ++ [.exchange x]) u₂ r.1 ∧ Broken w r := by
  cases h with
  | finished => simp at cut
  | cancelled =>
      obtain ⟨u, rfl, h⟩ := cut_cons cut (polling_ne suspends)
      simp at h
  | raised | lost | cycle =>
      obtain ⟨u, rfl, h⟩ := cut_looked suspends cut
      simp at h
  | unskipped no skips =>
      rw [exchanges_looked, stored_cons] at stored
      exact absurd stored.2 skips.not_stored
  | stopped yes target away fresh visits =>
      rw [exchanges_stepped, stored_cons] at stored
      obtain ⟨u, rfl, within⟩ := cut_looked suspends cut
      rw [List.append_assoc]
      exact ⟨(visits.settles_within stored.2 suspends within).prepend _, visits.broken stored.2⟩

/-- A walk with a node on its path looks for a request before it does anything else. -/
theorem Walks.cancelled {s : Walk} {r : Execution × Option Stop} (h : Walks w ticket s v r)
    (onPath : s.frames ≠ []) (seen : polling ticket false ∉ exchanges v) :
    v = [.exchange (polling ticket true)] ∧ r = (s.record, some (.ended (.cancelled w.id))) := by
  cases h with
  | halt h =>
      cases h with
      | finished => exact absurd rfl onPath
      | cancelled => exact ⟨rfl, rfl⟩
      | raised | unskipped | lost | cycle | stopped => simp at seen
  | turn h _ => cases h <;> simp at seen

theorem quiet_polling (ticket : Ticket) (requested : Bool) (l : Execution) :
    Quiet [.exchange (polling ticket requested)] l :=
  ⟨rfl, rfl, rfl, List.forall_mem_nil _⟩

theorem Walks.settles {s : Walk} {r : Execution × Option Stop} (h : Walks w ticket s v r)
    (stored : Stored (exchanges v)) (suspends : x.1.suspends = true)
    (cut : v = u₁ ++ .exchange x :: u₂) (seen : polling ticket false ∉ exchanges u₂) :
    Settles (u₁ ++ [.exchange x]) u₂ r.1 ∧
      (r.2 = some (.ended (.cancelled w.id)) ∨ Broken w r) := by
  induction h generalizing u₁ with
  | halt h => exact (h.settles stored suspends cut).imp_right .inr
  | @turn s s' v v' r ht rest ih =>
      rw [exchanges_append, stored_append] at stored
      obtain ⟨u, rfl, rfl⟩ | ⟨u, rfl, within⟩ := cut_append cut
      · -- the call comes in this turn, and the next one finds the request
        rw [exchanges_append, List.mem_append, not_or] at seen
        obtain ⟨settles, onPath⟩ := ht.settles stored.1 suspends rfl
        obtain ⟨rfl, rfl⟩ := rest.cancelled onPath seen.2
        exact ⟨settles.append (quiet_polling ticket true s'.record) rfl, .inl rfl⟩
      · obtain ⟨settles, stops⟩ := ih stored.2 within
        rw [List.append_assoc]
        exact ⟨settles.prepend v, stops⟩

theorem Traverses.settles {r : Execution × Option Stop} (h : Traverses w ticket e v r)
    (stored : Stored (exchanges v)) (suspends : x.1.suspends = true)
    (cut : v = u₁ ++ .exchange x :: u₂) (seen : polling ticket false ∉ exchanges u₂) :
    Settles (u₁ ++ [.exchange x]) u₂ r.1 ∧
      (r.2 = some (.ended (.cancelled w.id)) ∨ Broken w r) := by
  cases h with
  | triggerless | succeeded => simp at cut
  | stopped first fresh visits =>
      rw [exchanges_begun] at stored
      exact ⟨visits.settles_within stored suspends cut, .inr (visits.broken stored)⟩
  | walked first fresh visits walks =>
      rw [exchanges_append, exchanges_begun, stored_append] at stored
      obtain ⟨u, within, rfl⟩ | ⟨u, rfl, within⟩ := cut_append cut
      · rw [exchanges_append, List.mem_append, not_or] at seen
        have settles := visits.settles_within stored.1 suspends within
        obtain ⟨rfl, rfl⟩ := walks.cancelled (List.cons_ne_nil _ _) seen.2
        exact ⟨settles.append (quiet_polling ticket true _) rfl, .inl rfl⟩
      · obtain ⟨settles, stops⟩ := walks.settles stored.2 suspends within seen
        rw [List.append_assoc]
        exact ⟨settles.prepend _, stops⟩

/-- The call under way belongs to the conclusion: the end of the record is saved already, or the run
has left the registry. -/
theorem Concludes.settles {s : Execution × Option Stop} {c : List Exchange}
    {r : Except Failure Execution} (h : Concludes w ticket s c r) (stored : Stored c)
    (suspends : x.1.suspends = true) (cut : c = t₁ ++ x :: t₂) :
    (∃ t, t₁ = t ++ [⟨.release s.1.id ticket, ()⟩]) ∨ (∀ y ∈ t₁, Runs.Stays y) ∧
      ∃ d, r = .ok d ∧ Settles (plain t₁ ++ [.exchange x]) (plain t₂) d := by
  have final (y : Exchange) (t₂ : List Exchange) {t₁ : List Exchange} {d : Execution}
      (saved : (savings (t₁ ++ [y])).getLast? = some d) (rest : savings t₂ = [])
      (done : Engine.invocations t₂ = []) : Settles (plain t₁ ++ [.exchange y]) (plain t₂) d :=
    settles_told ⟨d, saved, rfl⟩ (rest ▸ List.forall_mem_nil _) done
  revert suspends
  cases h with
  | aborted taken =>
      refine forall_cuts cut ?_
      simp only [cuts, List.map_nil, List.forall_mem_singleton]
      exact unsuspended
  | unsaved => exact absurd stored (not_stored (.tail _ (.head _)))
  | uncounted _ _ _ f => exact absurd (.tail _ (.tail _ (.head _))) (stored _ f)
  | counted taken completed finish reply =>
      refine forall_cuts cut ?_
      simp only [cuts, List.map_cons, List.map_nil, List.forall_mem_cons]
      refine ⟨unsuspended, fun _ => .inr ⟨?_, _, rfl, final _ _ rfl rfl rfl⟩,
        fun _ => .inr ⟨?_, _, rfl, final _ _ rfl rfl rfl⟩, unsuspended,
        fun _ => .inl ⟨[_, _, _], rfl⟩, List.forall_mem_nil _⟩
      · simp [Runs.Stays]
      · simp [Runs.Stays, saving]
  | closed taken incomplete finish reply =>
      refine forall_cuts cut ?_
      simp only [cuts, List.map_cons, List.map_nil, List.forall_mem_cons]
      refine ⟨unsuspended, fun _ => .inr ⟨?_, _, rfl, final _ _ rfl rfl rfl⟩, unsuspended,
        fun _ => .inl ⟨[_, _], rfl⟩, List.forall_mem_nil _⟩
      simp [Runs.Stays]

end TriggerFlow.Engine
