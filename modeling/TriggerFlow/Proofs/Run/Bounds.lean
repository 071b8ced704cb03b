import TriggerFlow.Proofs.Run.Account

/-!
How long a walk can take. Every turn of it leaves a node or evaluates a connection; a node is left
once and a connection evaluated once, so that their number bounds the turns, whatever the
surroundings do.
-/

namespace TriggerFlow.Engine

open Program

variable {w : Workflow} {ticket : Ticket} {e l : Execution} {u : List Event} {t : List Exchange}

/-- The calls that the nodes entered have to make, in order. -/
def dispatches (u : List Event) : List Call :=
  (entries u).flatMap fun p => (dispatch? p.1 p.2).toList

theorem dispatches_append (u v : List Event) :
    dispatches (u ++ v) = dispatches u ++ dispatches v := by
  simp [dispatches]

/-- What a walk has done so far, counted. -/
structure Tally (u : List Event) (s : Walk) : Prop where
  looks : pollings (exchanges u) = (evaluations u).length + (leavings u).length
  steps : s.record.steps.length ≤ 1 + (evaluations u).length
  dispatched : (invocations (exchanges u)).map (·.1) = dispatches u

theorem Turn.pollings {s s' : Walk} {v : List Event} (h : Turn w ticket s v s') :
    pollings (exchanges v) = (evaluations v).length + (leavings v).length := by
  cases h with
  | leave | pass => rfl
  | skip no skips =>
      have quiet := skips.pollings
      simp [quiet]
  | enter yes target away fresh visits =>
      have quiet := visits.pollings
      simp [quiet]

theorem Turn.steps {s s' : Walk} {v : List Event} (h : Turn w ticket s v s') :
    s'.record.steps.length ≤ s.record.steps.length + (evaluations v).length := by
  cases h with
  | leave | pass => exact Nat.le_add_right ..
  | skip no skips =>
      obtain ⟨_, _, rfl⟩ := skips.record
      simp [Execution.addStep]
  | enter yes target away fresh visits =>
      rw [visits.record]
      simp [Execution.addStep]

theorem Turn.dispatched {s s' : Walk} {v : List Event} (h : Turn w ticket s v s') :
    (invocations (exchanges v)).map (·.1) = dispatches v := by
  cases h with
  | leave | pass => rfl
  | skip no skips =>
      have quiet := skips.invocations
      simp [quiet, dispatches]
  | enter yes target away fresh visits =>
      obtain dispatched | ⟨-, _, _, h⟩ := visits.dispatched
      · simpa [dispatches] using dispatched
      · cases h

theorem Tally.turn {s s' : Walk} {v : List Event} (h : Tally u s) (ht : Turn w ticket s v s') :
    Tally (u ++ v) s' where
  looks := by
    have looks := h.looks
    have more := ht.pollings
    simp only [exchanges_append, pollings_append, evaluations_append, leavings_append,
      List.length_append]
    omega
  steps := by
    have steps := h.steps
    have more := ht.steps
    simp only [evaluations_append, List.length_append]
    omega
  dispatched := by
    rw [exchanges_append, invocations_append, List.map_append, h.dispatched, ht.dispatched,
      dispatches_append]

theorem Tally.first {n : Node} {x : Fields} {v : Visit} (prepared : Prepared w e)
    (visits : Visits w e n x t (.ok (l, v))) :
    Tally (.entered n x :: plain t) ⟨l, [Frame.enter w n x v]⟩ where
  looks := by
    have quiet := visits.pollings
    simp [quiet]
  steps := by
    rw [visits.record]
    simp [Execution.addStep, prepared.unstarted]
  dispatched := by
    obtain dispatched | ⟨-, _, _, h⟩ := visits.dispatched
    · simpa [dispatches] using dispatched
    · cases h

theorem Halt.evaluations_sublist {s : Walk} {v : List Event} {r : Execution × Option Stop}
    (h : Halt w ticket s v r) : (evaluations v).Sublist (s.frames.flatMap Frame.owed) := by
  cases h with
  | finished | cancelled => exact List.nil_sublist _
  | raised | unskipped | lost | cycle | stopped => simp [Frame.owed]

theorem Halt.pollings {s : Walk} {v : List Event} {r : Execution × Option Stop}
    (h : Halt w ticket s v r) :
    pollings (exchanges v) ≤ (evaluations v).length + s.frames.length := by
  cases h with
  | finished => exact Nat.le_refl _
  | cancelled | raised | lost | cycle => simp
  | unskipped no skips =>
      have quiet := skips.pollings
      simp [quiet]
  | stopped yes target away fresh visits =>
      have quiet := visits.pollings
      simp [quiet]

theorem Halt.steps {s : Walk} {v : List Event} {r : Execution × Option Stop}
    (h : Halt w ticket s v r) :
    r.1.steps.length ≤ s.record.steps.length + (evaluations v).length := by
  cases h with
  | finished | cancelled | raised | lost | cycle => exact Nat.le_add_right ..
  | unskipped no skips =>
      obtain ⟨_, _, rfl⟩ := skips.record
      simp [Execution.addStep]
  | stopped yes target away fresh visits =>
      obtain ⟨_, rfl, -⟩ := visits.only_steps
      simp [Execution.addStep]

theorem Halt.dispatched {s : Walk} {v : List Event} {r : Execution × Option Stop}
    (h : Halt w ticket s v r) :
    ((invocations (exchanges v)).map (·.1)).Sublist (dispatches v) := by
  cases h with
  | finished | cancelled | raised | lost | cycle => exact List.nil_sublist _
  | unskipped no skips =>
      have quiet := skips.invocations
      simp [quiet]
  | stopped yes target away fresh visits =>
      obtain dispatched | ⟨quiet, -⟩ := visits.dispatched
      · simp [dispatches, dispatched]
      · simp [quiet]

theorem Halt.entries {s : Walk} {v : List Event} {r : Execution × Option Stop}
    (h : Halt w ticket s v r) : entries v = [] ∨ ∃ m context, entries v = [(m, context)] ∧
      m ∈ w.nodes ∧ (s.record.successfulStep? m.id).isSome = false := by
  cases h with
  | finished | cancelled | raised | lost | cycle => exact .inl rfl
  | unskipped => exact .inl (by simp)
  | stopped yes target away fresh visits =>
      rw [entries_cons, entries_cons, entries_cons, entries_plain]
      exact .inr ⟨_, _, rfl, Graph.mem_nodes_of_node? target, fresh⟩

theorem flatMap_outgoing_perm {ids : List String} (h : ids.Nodup) :
    (ids.flatMap w.outgoing).Perm (w.connections.filter fun c => ids.contains c.source) := by
  induction ids with
  | nil => simp
  | cons id ids ih =>
      obtain ⟨new, h⟩ := List.nodup_cons.mp h
      have split := List.filter_append_perm (·.source == id)
        (w.connections.filter fun c => (id :: ids).contains c.source)
      have here : (w.connections.filter fun c => (id :: ids).contains c.source).filter
          (·.source == id) = w.outgoing id := by
        rw [List.filter_filter]
        exact List.filter_congr fun c _ => by
          by_cases hc : c.source = id <;> simp [hc]
      have there : (w.connections.filter fun c => (id :: ids).contains c.source).filter
          (fun c => !(c.source == id)) =
            w.connections.filter fun c => ids.contains c.source := by
        rw [List.filter_filter]
        exact List.filter_congr fun c _ => by
          by_cases hc : c.source = id <;> simp [hc, new]
      rw [here, there] at split
      rw [List.flatMap_cons]
      exact ((ih h).append_left _).trans split

theorem due_subperm (once : (enteredIds u).Nodup) :
    ((due w u).map (·.connection)).Subperm w.connections := by
  have outgoing : (due w u).map (·.connection) = (enteredIds u).flatMap w.outgoing := by
    simp [due_eq, enteredIds, List.map_flatMap, List.flatMap_map, Function.comp_def]
  rw [outgoing]
  exact (flatMap_outgoing_perm once).subperm.trans List.filter_sublist.subperm

/-- What bounds a walk: its turns, its visits, its looks at connections and its steps. -/
structure Bounded (w : Workflow) (u : List Event) (e : Execution) : Prop where
  turns : pollings (exchanges u) ≤ w.nodes.length + w.connections.length
  known : ∀ p ∈ entries u, p.1 ∈ w.nodes
  once : (enteredIds u).Nodup
  dispatched : ((invocations (exchanges u)).map (·.1)).Sublist (dispatches u)
  evaluated : ((evaluations u).map (·.connection)).Subperm w.connections
  found : ∀ v ∈ evaluations u, (w.node? v.connection.target).isSome = true
  steps : e.steps.length ≤ 1 + w.connections.length

theorem enteredIds_length_le (known : ∀ p ∈ entries u, p.1 ∈ w.nodes)
    (once : (enteredIds u).Nodup) : (enteredIds u).length ≤ w.nodes.length := by
  have within : enteredIds u ⊆ w.nodes.map (·.id) := by
    intro id hid
    obtain ⟨p, hp, rfl⟩ := List.mem_map.mp hid
    exact List.mem_map_of_mem (known p hp)
  simpa using (once.subperm within).length_le

theorem Account.evaluated {start : String} {s : Walk} {v : List Event}
    {r : Execution × Option Stop} (account : Account w start u s) (h : Halt w ticket s v r) :
    ((evaluations (u ++ v)).map (·.connection)).Subperm w.connections := by
  have looked : (evaluations (u ++ v)).Subperm (due w u) := by
    rw [evaluations_append]
    exact (h.evaluations_sublist.append_left _).subperm.trans account.owed.subperm
  obtain ⟨evaluated, perm, sublist⟩ := looked
  exact .trans ⟨_, perm.map _, sublist.map _⟩ (due_subperm account.once)

theorem Account.visited {start : String} {s : Walk} {v : List Event}
    {r : Execution × Option Stop} (account : Account w start u s) (h : Halt w ticket s v r) :
    (∀ p ∈ entries (u ++ v), p.1 ∈ w.nodes) ∧ (enteredIds (u ++ v)).Nodup := by
  rw [entries_append, enteredIds_append]
  obtain none | ⟨m, context, one, hm, fresh⟩ := h.entries
  · rw [enteredIds, enteredIds, none, List.map_nil, List.append_nil, List.append_nil]
    exact ⟨account.known, account.once⟩
  · have new : m.id ∉ enteredIds u := by
      rw [← account.succeeded_iff, fresh]
      exact Bool.false_ne_true
    have once := List.Nodup.concat new account.once
    rw [List.concat_eq_append] at once
    rw [show enteredIds v = [m.id] by rw [enteredIds, one]; rfl, one]
    refine ⟨fun p hp => ?_, once⟩
    obtain hp | hp := List.mem_append.mp hp
    · exact account.known p hp
    · rw [List.mem_singleton.mp hp]
      exact hm

theorem Account.bounded {start : String} {s : Walk} {v : List Event}
    {r : Execution × Option Stop} (activatable : w.Activatable) (account : Account w start u s)
    (tally : Tally u s) (h : Halt w ticket s v r) : Bounded w (u ++ v) r.1 := by
  have evaluated := account.evaluated h
  obtain ⟨known, once⟩ := account.visited h
  have connections : (evaluations u).length + (evaluations v).length ≤ w.connections.length := by
    simpa using evaluated.length_le
  exact {
    turns := by
      -- every node that was entered has been left or is still open
      have nodes : (leavings u).length + s.frames.length ≤ w.nodes.length := by
        have left := account.left.length_eq
        rw [List.length_append, List.length_map] at left
        rw [left]
        exact enteredIds_length_le account.known account.once
      have before := tally.looks
      have last := h.pollings
      rw [exchanges_append, pollings_append]
      omega
    known, once, evaluated
    dispatched := by
      rw [exchanges_append, invocations_append, List.map_append, tally.dispatched,
        dispatches_append]
      exact h.dispatched.append_left _
    found v hv :=
      activatable.node?_isSome (evaluated.subset (List.mem_map_of_mem hv))
    steps := by
      have before := tally.steps
      have last := h.steps
      omega }

theorem Bounded.stopped {n : Node} {stop : Stop} (prepared : Prepared w e) (hn : n ∈ w.nodes)
    (visits : Visits w e n e.triggerData t (.error (l, stop))) :
    Bounded w (.entered n e.triggerData :: plain t) l where
  turns := by
    have quiet := visits.pollings
    simp [quiet]
  known := by simpa using hn
  once := by simp
  dispatched := by
    obtain dispatched | ⟨quiet, -⟩ := visits.dispatched
    · simp [dispatches, dispatched]
    · simp [quiet]
  evaluated := by simp
  found := by simp
  steps := by
    obtain ⟨_, rfl, -⟩ := visits.only_steps
    simp [Execution.addStep, prepared.unstarted]

/-- The walk of a prepared run comes to its end whatever the surroundings answer, and stays within
its bounds. -/
theorem traverse_bounded {data : Value} {t₀ : List Exchange}
    (accepted : (prepare w data).Ends t₀ (.ok e)) (ticket : Ticket) :
    (∀ (σ : Type) (answer : (c : Call) → σ → Reply c × σ) (s : σ),
      (traverse w alone ticket e).Ends ((traverse w alone ticket e).exchange answer s)
        ((traverse w alone ticket e).run answer s).1) ∧
    ∀ t l stop, (traverse w alone ticket e).Ends t (l, stop) →
      ∃ u, Traverses w ticket e u (l, stop) ∧ exchanges u = t ∧ Bounded w u l := by
  have prepared := prepared_of_ends accepted
  obtain ⟨n, ns, first⟩ := prepared.activatable.trigger
  have hn := Workflow.mem_nodes_of_triggers first
  refine ⟨fun σ answer s => ends_run answer _ s, fun t l stop ends => ?_⟩
  obtain ⟨u, traverses, rfl⟩ := traverses_of_ends ends
  refine ⟨u, traverses, rfl, ?_⟩
  obtain ⟨t, l, stop, visits, rfl, h⟩ | ⟨u', s, v, ⟨account, tally⟩, halt, rfl⟩ :=
    traverses.exists_halt (P := fun u s => Account w n.id u s ∧ Tally u s) prepared first
      (fun visits => ⟨.first prepared hn visits, .first prepared visits⟩)
      (fun h ht => ⟨h.1.turn ht, h.2.turn ht⟩)
  · cases h
    exact .stopped prepared hn visits
  · exact account.bounded prepared.activatable tally halt

theorem sample_traverse_bounded :
    ∃ u l stop, Traverses sample 0 sampleRecord u (l, stop) ∧ Bounded sample u l := by
  obtain ⟨ends, bounded⟩ := traverse_bounded sample_prepared 0
  obtain ⟨u, traverses, -, within⟩ := bounded _ _ _ (ends Unit calm ())
  exact ⟨u, _, _, traverses, within⟩

end TriggerFlow.Engine
