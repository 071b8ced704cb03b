import TriggerFlow.Proofs.Run.History

/-!
What a run records of its calls of the dispatcher. Before each of them the step of the node is saved
as running; right after it the step is saved as the reply has settled it, and it stays like that in
whatever is saved later. Conversely, every step that is over was settled by a call, but for those of
triggers.
-/

namespace TriggerFlow.Engine

open Program

variable {w : Workflow} {ticket : Ticket} {e l d k : Execution} {u v : List Event}
  {t t₁ t₂ before after : List Exchange} {n : Node} {context : Fields} {s : Step} {x : Exchange}

section Dispatched

/-- The step of a node whose work came out so. -/
def settledStep (n : Node) (id : String) (start finish : Moment) : Except Failure Fields → Step
  | .ok output => Visit.step ⟨id, start, finish, output⟩ n
  | .error f => failedStep n id start finish f.shown

/-- `Dispatched w before x after s`: the call `x` of the dispatcher, made after one exchange and
before the other, has settled the step `s`. -/
inductive Dispatched (w : Workflow) : List Exchange → Exchange → List Exchange → Step → Prop
  | intro {before after : List Exchange} {l : Execution} {n : Node} {a : Action} {context : Value}
      {reply : Except Failure Value} {id : String} {start finish : Moment}
      {kept : Except Failure Unit} (known : n ∈ w.nodes) (kind : n.kind = .action a)
      (running : (savings before).getLast? = some (l.addStep (runningStep n id start)))
      (lasting : ∀ k ∈ savings after,
        (l.addStep (settledStep n id start finish (reply.bind Output.fields))).steps <+: k.steps) :
      Dispatched w before ⟨.invoke a n.config context, reply⟩
        (⟨.now, finish⟩ ::
          saving (l.addStep (settledStep n id start finish (reply.bind Output.fields))) kept ::
            after)
        (settledStep n id start finish (reply.bind Output.fields))

theorem Dispatched.prepend (h : Dispatched w before x after s) (t : List Exchange) :
    Dispatched w (t ++ before) x after s := by
  cases h with
  | intro known kind running lasting =>
      refine .intro known kind ?_ lasting
      rw [savings_append, List.getLast?_append, running]
      rfl

theorem Dispatched.extend (h : Dispatched w before x after s)
    (last : ((savings (before ++ x :: after)).getLast?.getD l).steps = d.steps)
    (grows : ∀ k ∈ savings t, d.steps <+: k.steps) : Dispatched w before x (after ++ t) s := by
  cases h with
  | @intro rest l' n a context reply id start finish kept known kind running lasting =>
      generalize settles : l'.addStep (settledStep n id start finish _) = settled at last lasting
      have final : settled.steps <+: d.steps := by
        have saved : savings (before ++ ⟨.invoke a n.config context, reply⟩ :: ⟨.now, finish⟩ ::
            saving settled kept :: rest) = savings before ++ settled :: savings rest :=
          savings_append _ _
        rw [← last, saved, List.getLast?_append, List.getLast?_cons]
        cases final : (savings rest).getLast? with
        | none => exact List.prefix_rfl
        | some k => exact lasting k (List.mem_of_getLast? final)
      have lasting' : ∀ k ∈ savings (rest ++ t), settled.steps <+: k.steps := by
        rw [savings_append, List.forall_mem_append]
        exact ⟨lasting, fun k hk => final.trans (grows k hk)⟩
      subst settles
      exact .intro known kind running lasting'

theorem Dispatched.exists_node (h : Dispatched w before x after s) : ∃ n ∈ w.nodes, n.id = s.node ∧
    ∃ a context reply, n.kind = .action a ∧ x = ⟨.invoke a n.config context, reply⟩ := by
  cases h with
  | @intro _ l n a context reply id start finish kept known kind running lasting =>
      refine ⟨n, known, ?_, a, context, reply, kind, rfl⟩
      cases reply.bind Output.fields <;> rfl

end Dispatched

section Records

/-- Where a step comes from: it is not over, or a trigger's, or a call has settled it. -/
def Sourced (w : Workflow) (t : List Exchange) (s : Step) : Prop :=
  (s.status ≠ .success ∧ s.status ≠ .failed) ∨
    (∃ n ∈ w.nodes, n.isTrigger = true ∧ n.id = s.node) ∨
    ∃ before x after, t = before ++ x :: after ∧ Dispatched w before x after s

/-- A stretch of a run, from one record to another, keeps to the rules. -/
structure Records (w : Workflow) (l : Execution) (t : List Exchange) (d : Execution) : Prop where
  last : ((savings t).getLast?.getD l).steps = d.steps
  grows : ∀ k ∈ savings t, l.steps <+: k.steps
  forth : ∀ before x after, t = before ++ x :: after → isInvocation x = true →
    ∃ s, Dispatched w before x after s
  back : ∀ k ∈ savings t, ∀ s ∈ k.steps, s ∈ l.steps ∨ Sourced w t s

theorem not_called (undispatched : invocations t = []) (among : x ∈ t) : ¬ isInvocation x = true :=
  List.filter_eq_nil_iff.mp undispatched x among

theorem dispatched_of_none (undispatched : invocations t = []) (cut : t = before ++ x :: after)
    (called : isInvocation x = true) : ∃ s, Dispatched w before x after s :=
  absurd called (not_called undispatched (cut ▸ List.mem_append_right _ List.mem_cons_self))

namespace Records

theorem quiet (unsaved : savings t = []) (undispatched : invocations t = []) :
    Records w l t l where
  last := by
    rw [unsaved]
    rfl
  grows := by
    rw [unsaved]
    exact List.forall_mem_nil _
  forth _ _ _ := dispatched_of_none undispatched
  back := by
    rw [unsaved]
    exact List.forall_mem_nil _

theorem mem_last (h : Records w l t d) : ∃ k ∈ l :: savings t, k.steps = d.steps := by
  refine ⟨_, ?_, h.last⟩
  cases final : (savings t).getLast? with
  | none => exact List.mem_cons_self
  | some k => exact .tail _ (List.mem_of_getLast? final)

theorem prefix_end (h : Records w l t d) : l.steps <+: d.steps := by
  obtain ⟨k, among, same⟩ := h.mem_last
  rw [← same]
  obtain rfl | saved := List.mem_cons.mp among
  · exact List.prefix_rfl
  · exact h.grows k saved

theorem back_end (h : Records w l t d) : ∀ s ∈ d.steps, s ∈ l.steps ∨ Sourced w t s := by
  obtain ⟨k, among, same⟩ := h.mem_last
  rw [← same]
  obtain rfl | saved := List.mem_cons.mp among
  · exact fun s hs => .inl hs
  · exact h.back k saved

theorem extend (h : Records w l t₁ d) (grows : ∀ k ∈ savings t₂, d.steps <+: k.steps)
    (sourced : Sourced w t₁ s) : Sourced w (t₁ ++ t₂) s := by
  obtain idle | trigger | ⟨before, x, after, rfl, dispatched⟩ := sourced
  · exact .inl idle
  · exact .inr (.inl trigger)
  · refine .inr (.inr ⟨before, x, after ++ t₂, ?_, dispatched.extend h.last grows⟩)
    rw [List.append_assoc, List.cons_append]

theorem append (h₁ : Records w l t₁ d) (h₂ : Records w d t₂ k) : Records w l (t₁ ++ t₂) k where
  last := by
    rw [savings_append, List.getLast?_append, ← h₂.last]
    cases final : (savings t₂).getLast? with
    | none => exact h₁.last
    | some k' => rfl
  grows := by
    rw [savings_append, List.forall_mem_append]
    exact ⟨h₁.grows, fun k' hk => h₁.prefix_end.trans (h₂.grows k' hk)⟩
  forth := by
    intro before x after cut called
    obtain ⟨after, early, rfl⟩ | ⟨before, rfl, late⟩ := cut_append cut
    · obtain ⟨s, dispatched⟩ := h₁.forth before x after early called
      subst early
      exact ⟨s, dispatched.extend h₁.last h₂.grows⟩
    · obtain ⟨s, dispatched⟩ := h₂.forth before x after late called
      exact ⟨s, dispatched.prepend t₁⟩
  back := by
    have later {s : Step} (sourced : Sourced w t₂ s) : Sourced w (t₁ ++ t₂) s := by
      obtain idle | trigger | ⟨before, x, after, rfl, dispatched⟩ := sourced
      · exact .inl idle
      · exact .inr (.inl trigger)
      · exact .inr (.inr ⟨t₁ ++ before, x, after, (List.append_assoc ..).symm,
          dispatched.prepend t₁⟩)
    have earlier {s : Step} (origin : s ∈ l.steps ∨ Sourced w t₁ s) :
        s ∈ l.steps ∨ Sourced w (t₁ ++ t₂) s := origin.imp_right (h₁.extend h₂.grows)
    rw [savings_append, List.forall_mem_append]
    constructor
    · exact fun k' hk s hs => earlier (h₁.back k' hk s hs)
    · intro k' hk s hs
      obtain known | sourced := h₂.back k' hk s hs
      · exact earlier (h₁.back_end s known)
      · exact .inr (later sourced)

end Records

theorem records_of_added (states : List Step) (saved : savings t = states.map l.addStep)
    (last : states.getLast? = some s) (sourced : ∀ s ∈ states, Sourced w t s)
    (forth : ∀ before x after, t = before ++ x :: after → isInvocation x = true →
      ∃ s, Dispatched w before x after s) : Records w l t (l.addStep s) where
  last := by
    rw [saved, List.getLast?_map, last]
    rfl
  grows := by
    rw [saved, List.forall_mem_map]
    exact fun s _ => List.prefix_append ..
  forth := forth
  back := by
    rw [saved, List.forall_mem_map]
    intro state hs s' among
    obtain known | new := List.mem_append.mp among
    · exact .inl known
    · obtain rfl := List.mem_singleton.mp new
      exact .inr (sourced _ hs)

theorem eq_of_called {y : Exchange} (early : invocations t₁ = []) (late : invocations t₂ = [])
    (cut : t₁ ++ y :: t₂ = before ++ x :: after) (called : isInvocation x = true) :
    t₁ = before ∧ y = x ∧ t₂ = after := by
  obtain ⟨es, rfl, -⟩ | ⟨es, rfl, rest⟩ := cut_append cut
  · exact absurd called (not_called early (List.mem_append_right _ List.mem_cons_self))
  cases es with
  | nil =>
      obtain ⟨same, rfl⟩ := List.cons.inj rest
      exact ⟨(List.append_nil _).symm, same, rfl⟩
  | cons z es =>
      obtain ⟨-, rfl⟩ := List.cons.inj rest
      exact absurd called (not_called late (List.mem_append_right _ List.mem_cons_self))

/-- How a visit ends whose work came out so. -/
def settling (l : Execution) (finish : Moment) (s : Step) (kept : Except Failure Unit)
    (t : List Exchange) : List Exchange :=
  ⟨.now, finish⟩ :: saving (l.addStep s) kept :: t

/-- A visit that gets to its work: the work is its only call of the dispatcher. -/
theorem records_visit {fresh : String} {start finish : Moment} {told kept : Except Failure Unit}
    {p : Except Failure Fields} (known : n ∈ w.nodes) (work : (perform n context).Ends t p)
    (unsaved : savings t₂ = []) (undispatched : invocations t₂ = []) :
    Records w l (beginning l n fresh start told ++ t ++
        settling l finish (settledStep n (stepName fresh) start finish p) kept t₂)
      (l.addStep (settledStep n (stepName fresh) start finish p)) := by
  generalize settles : settledStep n (stepName fresh) start finish p = settled
  have early : invocations (beginning l n fresh start told) = [] := rfl
  have late : invocations (settling l finish settled kept t₂) = [] := undispatched
  have saved : savings (beginning l n fresh start told ++ t ++ settling l finish settled kept t₂) =
      [runningStep n (stepName fresh) start, settled].map l.addStep := by
    rw [savings_visit work]
    exact congrArg ([_, _] ++ ·) unsaved
  have begun {t : List Exchange} : Sourced w t (runningStep n (stepName fresh) start) :=
    .inl ⟨nofun, nofun⟩
  have work := ends_perform.mp work
  split at work
  · next event kind =>
    obtain ⟨rfl, -⟩ := work
    have trigger : n.isTrigger = true := by rw [Node.isTrigger, kind]
    have node : n.id = settled.node := by
      subst settles
      cases p <;> rfl
    refine records_of_added _ saved rfl ?_ ?_
    · rw [List.forall_mem_cons, List.forall_mem_singleton]
      exact ⟨begun, .inr (.inl ⟨n, known, trigger, node⟩)⟩
    · exact fun _ _ _ => dispatched_of_none (invocations_append .. ▸ late)
  · next a kind =>
    obtain ⟨reply, rfl, result⟩ := work
    have dispatched : Dispatched w (beginning l n fresh start told)
        ⟨.invoke a n.config (.obj context), reply⟩ (settling l finish settled kept t₂) settled := by
      subst settles result
      refine .intro known kind rfl ?_
      rw [unsaved]
      exact List.forall_mem_nil _
    rw [List.append_assoc] at saved ⊢
    refine records_of_added _ saved rfl ?_ ?_
    · rw [List.forall_mem_cons, List.forall_mem_singleton]
      exact ⟨begun, .inr (.inr ⟨_, _, _, rfl, dispatched⟩)⟩
    · intro b x c cut called
      obtain ⟨rfl, rfl, rfl⟩ := eq_of_called early late cut called
      exact ⟨settled, dispatched⟩

theorem Visits.records {r : Except (Execution × Stop) (Execution × Visit)} (known : n ∈ w.nodes)
    (h : Visits w l n context t r) : Records w l t (visited r) := by
  cases h with
  | unbegun =>
      refine records_of_added [_] rfl rfl ?_ fun _ _ _ => dispatched_of_none rfl
      exact List.forall_mem_singleton.mpr (.inl ⟨nofun, nofun⟩)
  | failed fresh start finish told reply work | failedUnsaved fresh start finish told g work
  | succeeded fresh start finish told reply work
  | succeededUnsaved fresh start finish told g work => exact records_visit known work rfl rfl

theorem Skips.records {c : Connection} {r : Except Failure Unit} (h : Skips w l c t (d, r)) :
    Records w l t d := by
  cases h with
  | unsaved | saved =>
      refine records_of_added [_] rfl rfl ?_ fun _ _ _ => dispatched_of_none rfl
      exact List.forall_mem_singleton.mpr (.inl ⟨nofun, nofun⟩)

theorem records_polled {requested : Bool} (h : Records w l t d) :
    Records w l (polling ticket requested :: t) d := by
  have polled : Records w l [polling ticket requested] l := .quiet rfl rfl
  exact polled.append h

theorem Turn.records {s s' : Walk} (h : Turn w ticket s v s') :
    Records w s.record (exchanges v) s'.record := by
  cases h with
  | leave | pass => exact .quiet rfl rfl
  | skip no skips =>
      rw [exchanges_looked]
      exact records_polled skips.records
  | enter yes target away fresh visits =>
      rw [exchanges_stepped]
      exact records_polled (visits.records (Graph.mem_nodes_of_node? target))

theorem Halt.records {s : Walk} {r : Execution × Option Stop} (h : Halt w ticket s v r) :
    Records w s.record (exchanges v) r.1 := by
  cases h with
  | finished | cancelled | raised | lost | cycle => exact .quiet rfl rfl
  | unskipped no skips =>
      rw [exchanges_looked]
      exact records_polled skips.records
  | stopped yes target away fresh visits =>
      rw [exchanges_stepped]
      exact records_polled (visits.records (Graph.mem_nodes_of_node? target))

theorem Walks.records {s : Walk} {r : Execution × Option Stop} (h : Walks w ticket s u r) :
    Records w s.record (exchanges u) r.1 := by
  induction h with
  | halt h => exact h.records
  | turn h _ ih =>
      rw [exchanges_append]
      exact h.records.append ih

theorem Traverses.records {r : Execution × Option Stop} (h : Traverses w ticket e u r) :
    Records w e (exchanges u) r.1 := by
  cases h with
  | triggerless | succeeded => exact .quiet rfl rfl
  | stopped first fresh visits =>
      rw [exchanges_begun]
      exact visits.records (Workflow.mem_nodes_of_triggers first)
  | walked first fresh visits walks =>
      rw [exchanges_append, exchanges_begun]
      exact (visits.records (Workflow.mem_nodes_of_triggers first)).append walks.records

theorem Concludes.records {r : Execution × Option Stop} {outcome : Except Failure Execution}
    (h : Concludes w ticket r t outcome) : Records w r.1 t r.1 := by
  have closing {l ended : Execution} {stop : Option Stop} {t : List Exchange}
      (taken : concluded l stop = .ok ended) (finish : Moment)
      (saved : savings t = [{ ended with completedAt := some finish }])
      (undispatched : Engine.invocations t = []) : Records w l t l := by
    have steps : ({ ended with completedAt := some finish } : Execution).steps = l.steps :=
      (concluded_sameRun taken).2
    constructor
    case last =>
      rw [saved]
      exact steps
    case grows =>
      rw [saved]
      exact List.forall_mem_singleton.mpr (steps ▸ List.prefix_rfl)
    case forth => exact fun _ _ _ => dispatched_of_none undispatched
    case back =>
      rw [saved, List.forall_mem_singleton, steps]
      exact fun s hs => .inl hs
  cases h with
  | aborted => exact .quiet rfl rfl
  | unsaved taken finish | uncounted taken _ finish | counted taken _ finish
  | closed taken _ finish => exact closing taken finish rfl rfl

/-- A run keeps to the rules from its beginning to its end, whatever the store does. -/
theorem run_records {r : Except Failure Execution} (ran : (run w alone e).Ends t r) :
    ∃ d, Records w e t d := by
  obtain ⟨u, s, @⟨ticket, _, _, c, _, traverses, concludes⟩⟩ := course_of_ends ran
  have attached : Records w e [⟨.attach e.id, ticket⟩] e := .quiet rfl rfl
  exact ⟨s.1, (attached.append traverses.records).append concludes.records⟩

end Records
end TriggerFlow.Engine
