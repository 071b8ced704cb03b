import Mathlib.Data.List.Chain
import Mathlib.Data.List.Nodup
import Mathlib.Data.List.Perm.Subperm
import TriggerFlow.Proofs.Run.Calm

/-!
The account that a walk keeps. Every node is entered once and then on the path until it is left;
every connection of a node that was entered has been evaluated on that node's input or is still owed
by its frame; the record has one step for each node entered and each connection not followed; and
whoever was followed to will be left before whoever it was followed from.
-/

namespace TriggerFlow.Engine

variable {w : Workflow} {ticket : Ticket} {e l : Execution} {u u' : List Event}

@[simp] def Event.mark? : Event → Option (String × StepStatus)
  | entered n _ => some (n.id, .success)
  | evaluated v => match v.result with
    | .ok false => some (v.connection.target, .skipped)
    | _ => none
  | _ => none

/-- What the record says of the nodes after a sequence of events, in order. -/
def marks (u : List Event) : List (String × StepStatus) := u.filterMap Event.mark?

@[simp] theorem marks_nil : marks [] = [] := rfl

@[simp] theorem marks_cons (x : Event) (u : List Event) :
    marks (x :: u) = x.mark?.toList ++ marks u := by
  rw [marks, List.filterMap_cons]
  cases x.mark? <;> rfl

@[simp] theorem marks_append (u v : List Event) : marks (u ++ v) = marks u ++ marks v :=
  List.filterMap_append

@[simp] theorem marks_plain (t : List Exchange) : marks (plain t) = [] := by
  simp [marks, plain, List.filterMap_map, Function.comp_def]

def markOf (s : Step) : String × StepStatus := (s.node, s.status)

/-- The connections of the nodes that were entered, each with the input of its source. -/
def due (w : Workflow) (u : List Event) : List Evaluation :=
  (entries u).flatMap fun p =>
    (w.connections.filter fun c => c.source = p.1.id).map (⟨·, p.2⟩)

/-- The connections that a frame has still to look at. -/
def Frame.owed (f : Frame) : List Evaluation := f.remaining.map (⟨·, f.context⟩)

/-- A connection from one node to another was followed: its conditions held in the input that the
first one was entered with. -/
def Followed (w : Workflow) (u : List Event) (a b : String) : Prop :=
  ∃ v ∈ evaluations u, v.result = .ok true ∧ v.connection ∈ w.connections ∧
    v.connection.source = a ∧ v.connection.target = b ∧ ∃ n, n.id = a ∧ (n, v.context) ∈ entries u

theorem Followed.append {a b : String} (h : Followed w u a b) (v : List Event) :
    Followed w (u ++ v) a b := by
  obtain ⟨x, hx, yes, hc, ha, hb, n, hn, he⟩ := h
  exact ⟨x, by simp [hx], yes, hc, ha, hb, n, hn, by simp [he]⟩

/-- Every node but the first one was followed to from a node that had succeeded before it. -/
def Led (w : Workflow) (start : String) (u : List Event) (steps : List Step) : Prop :=
  ∀ before s after, steps = before ++ s :: after → s.status = .success → s.node ≠ start →
    ∃ s' ∈ before, s'.status = .success ∧ Followed w u s'.node s.node

structure Account (w : Workflow) (start : String) (u : List Event) (s : Walk) : Prop where
  once : (enteredIds u).Nodup
  known : ∀ p ∈ entries u, p.1 ∈ w.nodes
  begun : start ∈ enteredIds u
  opened : ∀ f ∈ s.frames, (f.node, f.context) ∈ entries u
  remains : ∀ f ∈ s.frames, f.remaining <:+ w.outgoing f.node.id
  owed : (evaluations u ++ s.frames.flatMap Frame.owed).Perm (due w u)
  marked : s.record.steps.map markOf = marks u
  left : (leavings u ++ s.frames.map (·.node.id)).Perm (enteredIds u)
  ordered : ∀ v ∈ evaluations u, v.result = .ok true →
    [v.connection.target, v.connection.source].Sublist (leavings u ++ s.frames.map (·.node.id))
  path : (s.frames.map (·.node.id)).IsChain fun b a => Followed w u a b
  led : Led w start u s.record.steps

theorem due_eq (w : Workflow) (u : List Event) :
    due w u = (entries u).flatMap fun p => (w.outgoing p.1.id).map (⟨·, p.2⟩) := rfl

@[simp] theorem due_append (w : Workflow) (u v : List Event) :
    due w (u ++ v) = due w u ++ due w v := by
  simp [due]

@[simp] theorem due_cons (w : Workflow) (x : Event) (u : List Event) :
    due w (x :: u) =
      (x.entry?.toList.flatMap fun p => (w.outgoing p.1.id).map (⟨·, p.2⟩)) ++ due w u := by
  simp [due_eq]

@[simp] theorem due_plain (w : Workflow) (t : List Exchange) : due w (plain t) = [] := by
  simp [due]

@[simp] theorem due_nil (w : Workflow) : due w [] = [] := rfl

theorem mem_marks {id : String} : (id, .success) ∈ marks u ↔ id ∈ enteredIds u := by
  induction u with
  | nil => simp [enteredIds]
  | cons x u ih =>
      rw [show x :: u = [x] ++ u from rfl, marks_append, enteredIds_append, List.mem_append,
        List.mem_append, ih]
      refine or_congr_left ?_
      cases x with
      | exchange | left => simp [enteredIds]
      | entered n context => simp [enteredIds]
      | evaluated v =>
          simp only [marks_cons, Event.mark?, marks_nil, enteredIds]
          split <;> simp

theorem perm_insert {α : Type} {xs ys zs : List α} (h : (xs ++ ys).Perm zs) (new : List α) :
    (xs ++ (new ++ ys)).Perm (zs ++ new) :=
  calc
    (xs ++ (new ++ ys)).Perm (xs ++ (ys ++ new)) := List.perm_append_comm.append_left xs
    _ = (xs ++ ys) ++ new := (List.append_assoc ..).symm
    List.Perm _ (zs ++ new) := h.append_right new

theorem successfulStep?_isSome {id : String} :
    (e.successfulStep? id).isSome = true ↔ (id, .success) ∈ e.steps.map markOf := by
  simp [Execution.successfulStep?, List.find?_isSome, markOf]

theorem mem_due {v : Evaluation} :
    v ∈ due w u ↔ ∃ n, (n, v.context) ∈ entries u ∧ v.connection ∈ w.outgoing n.id := by
  simp only [due_eq, List.mem_flatMap, List.mem_map]
  constructor
  · rintro ⟨⟨n, context⟩, hn, c, hc, rfl⟩
    exact ⟨n, hn, hc⟩
  · rintro ⟨n, hn, hc⟩
    exact ⟨_, hn, _, hc, rfl⟩

theorem mem_outgoing {id : String} {c : Connection} :
    c ∈ w.outgoing id ↔ c ∈ w.connections ∧ c.source = id := by
  simp [Graph.outgoing]

theorem Led.addStep {start : String} {v : List Event} {s : Step}
    (h : Led w start u e.steps)
    (new : s.status = .success → s.node ≠ start →
      ∃ s' ∈ e.steps, s'.status = .success ∧ Followed w (u ++ v) s'.node s.node) :
    Led w start (u ++ v) (e.addStep s).steps := by
  intro before s₀ after heq success other
  obtain ⟨rfl, rfl, rfl⟩ | ⟨earlier, rfl, split⟩ := split_concat heq
  · exact new success other
  · obtain ⟨s', hs', success', followed⟩ := h _ _ _ split success other
    exact ⟨s', hs', success', followed.append v⟩

theorem Led.append {start : String} {steps : List Step} (h : Led w start u steps)
    (v : List Event) : Led w start (u ++ v) steps := by
  intro before s after heq success other
  obtain ⟨s', hs', success', followed⟩ := h before s after heq success other
  exact ⟨s', hs', success', followed.append v⟩

namespace Account

variable {start : String} {n m : Node} {x y : Fields} {c : Connection} {rest : List Connection}
  {frames below : List Frame} {t : List Exchange}

theorem succeeded_iff {s : Walk} (h : Account w start u s) {id : String} :
    (s.record.successfulStep? id).isSome = true ↔ id ∈ enteredIds u := by
  rw [successfulStep?_isSome, h.marked, mem_marks]

theorem source_connection (h : Account w start u ⟨e, ⟨n, x, y, c :: rest⟩ :: below⟩) :
    c ∈ w.connections ∧ c.source = n.id :=
  mem_outgoing.mp ((h.remains _ List.mem_cons_self).subset List.mem_cons_self)

theorem exists_success {s : Walk} (h : Account w start u s) {id : String}
    (entered : id ∈ enteredIds u) :
    ∃ s' ∈ s.record.steps, s'.status = .success ∧ s'.node = id := by
  obtain ⟨s', found⟩ := Option.isSome_iff_exists.mp (h.succeeded_iff.mpr entered)
  have hs := List.find?_some found
  simp only [Bool.and_eq_true, beq_iff_eq] at hs
  exact ⟨s', List.mem_of_find?_eq_some found, hs.2, hs.1⟩

theorem entered_top {f : Frame} (h : Account w start u ⟨e, f :: below⟩) :
    f.node.id ∈ enteredIds u :=
  h.left.mem_iff.mp (List.mem_append_right _ List.mem_cons_self)

theorem followed (h : Account w start u ⟨e, ⟨n, x, y, c :: rest⟩ :: below⟩)
    (yes : Evaluation.result ⟨c, x⟩ = .ok true) {v : List Event} (hv : ⟨c, x⟩ ∈ evaluations v) :
    Followed w (u ++ v) n.id c.target := by
  refine ⟨⟨c, x⟩, by simp [hv], yes, h.source_connection.1, h.source_connection.2, rfl, n, rfl, ?_⟩
  rw [entries_append]
  exact List.mem_append_left _ (h.opened _ List.mem_cons_self)

theorem leave (h : Account w start u ⟨e, ⟨n, x, y, []⟩ :: below⟩) (x₀ : Exchange) :
    Account w start (u ++ [.exchange x₀, .left n.id]) ⟨e, below⟩ where
  once := by simpa using h.once
  known := by simpa using h.known
  begun := by simpa using h.begun
  opened f hf := by simpa using h.opened f (.tail _ hf)
  remains f hf := h.remains f (.tail _ hf)
  owed := by simpa [Frame.owed] using h.owed
  marked := by simpa using h.marked
  left := by simpa using h.left
  ordered := by simpa using h.ordered
  path := h.path.tail.imp fun _ _ hf => hf.append _
  led := h.led.append _

theorem evaluate (h : Account w start u ⟨e, ⟨n, x, y, c :: rest⟩ :: below⟩) (x₀ : Exchange)
    (marked : l.steps.map markOf = marks (u ++ [.evaluated ⟨c, x⟩]))
    (led : Led w start (u ++ .exchange x₀ :: .evaluated ⟨c, x⟩ :: plain t) l.steps)
    (ordered : Evaluation.result ⟨c, x⟩ = .ok true →
      [c.target, n.id].Sublist (leavings u ++ n.id :: below.map (·.node.id))) :
    Account w start (u ++ .exchange x₀ :: .evaluated ⟨c, x⟩ :: plain t)
      ⟨l, ⟨n, x, y, rest⟩ :: below⟩ where
  once := by simpa using h.once
  known := by simpa using h.known
  begun := by simpa using h.begun
  opened := by simpa using h.opened
  remains := by
    have hr := h.remains
    rw [List.forall_mem_cons] at hr ⊢
    exact ⟨(List.suffix_cons c rest).trans hr.1, hr.2⟩
  owed := by simpa [Frame.owed] using h.owed
  marked := by simpa using marked
  left := by simpa using h.left
  ordered v hv yes := by
    simp only [evaluations_append, evaluations_cons, evaluations_plain, Event.evaluation?,
      Option.toList, List.mem_append, List.not_mem_nil, List.mem_singleton, or_false,
      false_or] at hv
    simp only [leavings_append, leavings_cons, leavings_plain, Event.leaving?, Option.toList,
      List.append_nil, List.map_cons]
    obtain hv | rfl := hv
    · simpa using h.ordered v hv yes
    · rw [h.source_connection.2]
      exact ordered yes
  path := h.path.imp fun _ _ hf => hf.append _
  led := led

theorem skip (h : Account w start u ⟨e, ⟨n, x, y, c :: rest⟩ :: below⟩) (x₀ : Exchange)
    {r : Except Failure Unit} (no : Evaluation.result ⟨c, x⟩ = .ok false)
    (skips : Skips w e c t (l, r)) :
    Account w start (u ++ .exchange x₀ :: .evaluated ⟨c, x⟩ :: plain t)
      ⟨l, ⟨n, x, y, rest⟩ :: below⟩ := by
  obtain ⟨id, time, rfl⟩ := skips.record
  refine h.evaluate x₀ ?_ (h.led.addStep nofun) fun yes => ?_
  · simp [Execution.addStep, h.marked, no, markOf, skippedStep]
  · rw [no] at yes
    cases yes

theorem left_of_succeeded {s : Walk} (h : Account w start u s) {id : String}
    (succeeded : (s.record.successfulStep? id).isSome = true)
    (away : id ∉ s.frames.map (·.node.id)) : id ∈ leavings u := by
  have entered := h.left.mem_iff.mpr (h.succeeded_iff.mp succeeded)
  exact (List.mem_append.mp entered).resolve_right away

theorem mem_pathOf {id : String} : id ∈ pathOf frames ↔ id ∈ frames.map (·.node.id) := by
  simp [pathOf]

theorem pass (h : Account w start u ⟨e, ⟨n, x, y, c :: rest⟩ :: below⟩) (x₀ : Exchange)
    (yes : Evaluation.result ⟨c, x⟩ = .ok true) (target : w.node? c.target = some m)
    (away : m.id ∉ pathOf (⟨n, x, y, rest⟩ :: below))
    (succeeded : (e.successfulStep? m.id).isSome = true) :
    Account w start (u ++ [.exchange x₀, .evaluated ⟨c, x⟩]) ⟨e, ⟨n, x, y, rest⟩ :: below⟩ := by
  refine h.evaluate (t := []) x₀ ?_ (h.led.append _) fun _ => ?_
  · simp [h.marked, yes]
  · -- the target was left before, while the source is still open
    have left := h.left_of_succeeded succeeded (mem_pathOf.not.mp away)
    rw [← Graph.id_of_node? target]
    exact (List.singleton_sublist.mpr left).append (List.singleton_sublist.mpr List.mem_cons_self)

theorem enter (h : Account w start u ⟨e, ⟨n, x, y, c :: rest⟩ :: below⟩) (x₀ : Exchange)
    {v : Visit} (yes : Evaluation.result ⟨c, x⟩ = .ok true) (target : w.node? c.target = some m)
    (fresh : (e.successfulStep? m.id).isSome = false) {z : Fields} :
    Account w start (u ++ .exchange x₀ :: .evaluated ⟨c, x⟩ :: .entered m z :: plain t)
      ⟨e.addStep (v.step m), Frame.enter w m z v :: ⟨n, x, y, rest⟩ :: below⟩ := by
  have new : m.id ∉ enteredIds u := by
    rw [← h.succeeded_iff, fresh]
    exact Bool.false_ne_true
  have id_target := Graph.id_of_node? target
  exact {
    once := by
      have once := List.Nodup.concat new h.once
      rw [List.concat_eq_append] at once
      simpa using once
    known := by
      have hm := Graph.mem_nodes_of_node? target
      simpa [or_imp, forall_and, hm] using h.known
    begun := by
      rw [enteredIds_append]
      exact List.mem_append_left _ h.begun
    opened := by
      have ho := h.opened
      rw [List.forall_mem_cons] at ho
      rw [List.forall_mem_cons, List.forall_mem_cons]
      refine ⟨by simp [Frame.enter], by simp [ho.1], fun f hf => ?_⟩
      rw [entries_append]
      exact List.mem_append_left _ (ho.2 f hf)
    remains := by
      have hr := h.remains
      rw [List.forall_mem_cons] at hr
      rw [List.forall_mem_cons, List.forall_mem_cons]
      exact ⟨List.suffix_rfl, (List.suffix_cons c rest).trans hr.1, hr.2⟩
    owed := by
      have owed : ((evaluations u ++ [(⟨c, x⟩ : Evaluation)]) ++
          (Frame.owed ⟨n, x, y, rest⟩ ++ below.flatMap Frame.owed)).Perm (due w u) := by
        simpa [Frame.owed] using h.owed
      simpa [Frame.owed, Frame.enter] using
        perm_insert owed ((w.outgoing m.id).map fun c => (⟨c, z⟩ : Evaluation))
    marked := by
      simp [Execution.addStep, h.marked, yes, markOf, Visit.step]
    left := by
      simpa [Frame.enter] using perm_insert h.left [m.id]
    ordered := by
      -- the new node comes after those that were left and before all that are open
      have pushed : (leavings u ++ n.id :: below.map (·.node.id)).Sublist
          (leavings u ++ m.id :: n.id :: below.map (·.node.id)) :=
        (List.sublist_cons_self _ _).append_left _
      have both : [m.id, n.id].Sublist (leavings u ++ m.id :: n.id :: below.map (·.node.id)) :=
        List.sublist_append_of_sublist_right (by simp)
      simp only [evaluations_append, evaluations_cons, evaluations_plain, Event.evaluation?,
        Option.toList, leavings_append, leavings_cons, leavings_plain, Event.leaving?,
        List.append_nil, List.nil_append, List.map_cons, Frame.enter, List.mem_append,
        List.mem_singleton]
      rintro v (hv | rfl) yes
      · exact (h.ordered v hv yes).trans pushed
      · rw [h.source_connection.2, ← id_target]
        exact both
    path := by
      have path := h.path.imp fun _ _ hf =>
        hf.append (.exchange x₀ :: .evaluated ⟨c, x⟩ :: .entered m z :: plain t)
      simp only [List.map_cons, Frame.enter] at path ⊢
      refine .cons_cons ?_ path
      rw [id_target]
      exact h.followed yes (by simp)
    led := h.led.addStep fun _ _ => by
      obtain ⟨s', hs', success, hn⟩ := h.exists_success h.entered_top
      refine ⟨s', hs', success, ?_⟩
      rw [hn, show (v.step m).node = c.target from id_target]
      exact h.followed yes (by simp) }

theorem turn {s s' : Walk} {v : List Event} (h : Account w start u s) (ht : Turn w ticket s v s') :
    Account w start (u ++ v) s' := by
  cases ht with
  | leave => exact h.leave _
  | skip no skips => exact h.skip _ no skips
  | pass yes target away succeeded => exact h.pass _ yes target away succeeded
  | enter yes target away fresh visits =>
      rw [visits.record]
      exact h.enter _ yes target fresh

theorem entered_of_yes {s : Walk} (h : Account w start u s) {v : Evaluation}
    (hv : v ∈ evaluations u) (yes : v.result = .ok true) :
    v.connection.target ∈ enteredIds u :=
  h.left.mem_iff.mp ((h.ordered v hv yes).subset List.mem_cons_self)

/-- When no node is open, no connection of a node that was entered is owed. -/
theorem evaluated_of_entered (h : Account w start u ⟨e, []⟩) (entered : (n, x) ∈ entries u)
    (hc : c ∈ w.outgoing n.id) : ⟨c, x⟩ ∈ evaluations u := by
  have owed := h.owed.mem_iff.mpr (mem_due (v := ⟨c, x⟩).mpr ⟨n, entered, hc⟩)
  simpa using owed

theorem of_steps (h : Account w start u ⟨e, frames⟩) (steps : l.steps = e.steps) :
    Account w start u ⟨l, frames⟩ :=
  { h with
    marked := (congrArg (List.map markOf) steps).trans h.marked
    led := by
      rw [steps]
      exact h.led }

theorem first {v : Visit} (prepared : Prepared w e) (hn : n ∈ w.nodes)
    (visits : Visits w e n x t (.ok (l, v))) :
    Account w n.id (.entered n x :: plain t) ⟨l, [Frame.enter w n x v]⟩ := by
  obtain rfl := visits.record
  exact {
    once := by simp
    known := by simpa using hn
    begun := by simp
    opened := by simp [Frame.enter]
    remains := by simp [Frame.enter]
    owed := by simp [Frame.enter, Frame.owed]
    marked := by simp [Execution.addStep, prepared.unstarted, markOf, Visit.step]
    left := by simp [Frame.enter]
    ordered := by simp
    path := by simp
    led := by
      intro before s after heq success other
      have hs : s ∈ (e.addStep (v.step n)).steps := by
        rw [show (e.addStep (v.step n)).steps = before ++ s :: after from heq]
        exact List.mem_append_right _ List.mem_cons_self
      rw [Execution.addStep, prepared.unstarted] at hs
      rw [List.mem_singleton.mp hs] at other
      exact absurd rfl other }

end Account

theorem Traverses.account {n : Node} {ns : List Node} (prepared : Prepared w e)
    (first : w.triggers = n :: ns) (h : Traverses w ticket e u (l, none)) :
    Account w n.id u ⟨l, []⟩ := by
  obtain ⟨_, _, _, _, _, h⟩ | ⟨u', s, v, account, halt, rfl⟩ := h.exists_halt (P := Account w n.id)
    prepared first (.first prepared (Workflow.mem_nodes_of_triggers first)) Account.turn
  · cases h
  · cases halt with
    | finished =>
        rw [List.append_nil]
        exact account

end TriggerFlow.Engine
