import Mathlib.Logic.Relation
import TriggerFlow.Proofs.Run.Completion

/-!
The cycles that runs detect. A run that fails with a cycle has followed one; a run that ends
completed has followed none, for the nodes are left in an order in which every connection that was
followed leads backwards.
-/

namespace TriggerFlow.Engine

open Program
open Account (mem_pathOf)
open Relation (TransGen ReflTransGen)

variable {w : Workflow} {ticket : Ticket} {e l : Execution} {u : List Event} {start : String}
  {t : List Exchange}

/-- A connection from one node to another was evaluated true. -/
def Taken (u : List Event) (a b : String) : Prop :=
  ∃ v ∈ evaluations u, v.result = .ok true ∧ v.connection.source = a ∧ v.connection.target = b

def Joined (w : Workflow) (a b : String) : Prop :=
  ∃ c ∈ w.connections, c.source = a ∧ c.target = b

theorem Followed.joined {a b : String} (h : Followed w u a b) : Joined w a b := by
  obtain ⟨v, -, -, hc, ha, hb, -⟩ := h
  exact ⟨v.connection, hc, ha, hb⟩

/-- The place of a node in the order in which the nodes were left. -/
def rank (u : List Event) (id : String) : Nat := (leavings u).idxOf id

theorem idxOf_lt_of_sublist {xs : List String} {a b : String} (distinct : xs.Nodup)
    (h : [a, b].Sublist xs) : xs.idxOf a < xs.idxOf b := by
  obtain ⟨before, after, rfl, ha, hb⟩ := List.cons_sublist_iff.mp h
  have hb := List.singleton_sublist.mp hb
  have apart : b ∉ before := fun hb' => List.disjoint_of_nodup_append distinct hb' hb
  calc
    (before ++ after).idxOf a = before.idxOf a := List.idxOf_append_of_mem ha
    _ < before.length := List.idxOf_lt_length_of_mem ha
    _ ≤ before.length + after.idxOf b := Nat.le_add_right ..
    _ = (before ++ after).idxOf b := (List.idxOf_append_of_notMem apart).symm

theorem Account.distinct {s : Walk} (h : Account w start u s) :
    (leavings u ++ s.frames.map (·.node.id)).Nodup := h.left.nodup_iff.mpr h.once

/-- When no node is open, every connection that was taken leads to a node that was left before. -/
theorem Account.rank_lt (h : Account w start u ⟨e, []⟩) {a b : String} (taken : Taken u a b) :
    rank u b < rank u a := by
  obtain ⟨v, hv, yes, rfl, rfl⟩ := taken
  have distinct := h.distinct
  have ordered := h.ordered v hv yes
  rw [List.map_nil, List.append_nil] at distinct ordered
  exact idxOf_lt_of_sublist distinct ordered

theorem Account.rank_lt_of_transGen (h : Account w start u ⟨e, []⟩) {a b : String}
    (path : TransGen (Taken u) a b) : rank u b < rank u a := by
  induction path with
  | single taken => exact h.rank_lt taken
  | tail _ taken ih => exact (h.rank_lt taken).trans ih

theorem Account.acyclic (h : Account w start u ⟨e, []⟩) (a : String) :
    ¬ TransGen (Taken u) a a := fun cycle => Nat.lt_irrefl _ (h.rank_lt_of_transGen cycle)

/-- A path that closes a cycle: its nodes are distinct and have succeeded, and every step of it was
followed. -/
structure Closes (w : Workflow) (u : List Event) (e : Execution) (path : List String) : Prop where
  closed : ∃ id ids, path = id :: ids ++ [id] ∧ (id :: ids).Nodup ∧ ∀ a ∈ id :: ids, a ∈ succeeded e
  followed : path.IsChain (Followed w u)

theorem dropWhile_eq_cons {ids : List String} {id : String} (h : id ∈ ids) :
    ∃ rest, ids.dropWhile (· != id) = id :: rest := by
  induction ids with
  | nil => cases h
  | cons a ids ih =>
      by_cases ha : a = id
      · exact ⟨ids, by simp [ha]⟩
      · rw [List.dropWhile_cons_of_pos (by simpa using ha)]
        exact ih (by simpa [Ne.symm ha] using h)

theorem getLast?_dropWhile {ids : List String} {id last : String} (h : id ∈ ids ++ [last]) :
    ((ids ++ [last]).dropWhile (· != id)).getLast? = some last := by
  obtain ⟨rest, hr⟩ := dropWhile_eq_cons h
  obtain ⟨before, hb⟩ := List.dropWhile_suffix (· != id) (l := ids ++ [last])
  have whole := congrArg List.getLast? hb
  rw [hr] at whole ⊢
  simpa [List.getLast?_append, List.getLast?_cons] using whole

theorem Account.closes {n m : Node} {x y : Fields} {c : Connection} {rest : List Connection}
    {below : List Frame} (h : Account w start u ⟨e, ⟨n, x, y, c :: rest⟩ :: below⟩) (x₀ : Exchange)
    (yes : Evaluation.result ⟨c, x⟩ = .ok true) (target : w.node? c.target = some m)
    (back : m.id ∈ pathOf (⟨n, x, y, rest⟩ :: below)) :
    Closes w (u ++ [.exchange x₀, .evaluated ⟨c, x⟩]) e
      (cycleThrough (⟨n, x, y, rest⟩ :: below) m.id) := by
  have path : pathOf (⟨n, x, y, rest⟩ :: below) = (below.map (·.node.id)).reverse ++ [n.id] := by
    simp [pathOf]
  have followed : (pathOf (⟨n, x, y, rest⟩ :: below)).IsChain
      (Followed w (u ++ [.exchange x₀, .evaluated ⟨c, x⟩])) :=
    List.isChain_reverse.mpr (h.path.imp fun _ _ hf => hf.append _)
  have distinct : (pathOf (⟨n, x, y, rest⟩ :: below)).Nodup :=
    List.nodup_reverse.mpr (List.Nodup.of_append_right h.distinct)
  have within {a : String} (ha : a ∈ pathOf (⟨n, x, y, rest⟩ :: below)) : a ∈ succeeded e :=
    h.succeeded_iff.mpr (h.left.mem_iff.mp (List.mem_append_right _ (mem_pathOf.mp ha)))
  -- the cycle is the end of the path from the target on, which the source closes
  have suffix := List.dropWhile_suffix (· != m.id) (l := pathOf (⟨n, x, y, rest⟩ :: below))
  obtain ⟨ids, hd⟩ := dropWhile_eq_cons back
  constructor
  · refine ⟨m.id, ids, by rw [cycleThrough, hd], ?_, fun a ha => ?_⟩
    · rw [← hd]
      exact distinct.sublist suffix.sublist
    · rw [← hd] at ha
      exact within (suffix.subset ha)
  · rw [cycleThrough, List.isChain_append]
    refine ⟨followed.suffix suffix, List.isChain_singleton _, ?_⟩
    rw [path] at back ⊢
    rw [getLast?_dropWhile back]
    rintro _ ⟨⟩ _ ⟨⟩
    rw [Graph.id_of_node? target]
    exact h.followed yes (by simp)

theorem Account.closes_of_halt {s : Walk} {v : List Event} {err : EngineError} {path : List String}
    (h : Account w start u s) (halt : Halt w ticket s v (l, some (.ended err)))
    (kind : err.kind = .cycle path) : Closes w (u ++ v) l path := by
  cases halt with
  | cancelled => cases kind
  | cycle yes target back =>
      cases kind
      exact h.closes _ yes target back
  | stopped yes target away fresh visits =>
      obtain ⟨_, rfl⟩ := visits.ended
      cases kind

theorem Traverses.closes {n : Node} {ns : List Node} {err : EngineError} {path : List String}
    (prepared : Prepared w e) (first : w.triggers = n :: ns)
    (h : Traverses w ticket e u (l, some (.ended err))) (kind : err.kind = .cycle path) :
    Closes w u l path := by
  obtain ⟨_, _, _, visits, -, ended⟩ | ⟨_, _, _, account, halt, rfl⟩ :=
    h.exists_halt (P := Account w n.id) prepared first
      (.first prepared (Workflow.mem_nodes_of_triggers first)) Account.turn
  · cases ended
    obtain ⟨_, rfl⟩ := visits.ended
    cases kind
  · exact account.closes_of_halt halt kind

theorem served_calm {α : Type} (p : Work α) : Served (p.exchange calm ()) := by
  intro a config context reply h
  obtain ⟨_, given⟩ := mem_exchange h
  have given : reply = .ok (.obj []) := given
  exact ⟨[], by rw [given]; rfl⟩

theorem result_of_unconditional {c : Connection} {x : Fields} (h : c.conditions = []) :
    Evaluation.result ⟨c, x⟩ = .ok true := by
  rw [Evaluation.result, h]
  rfl

theorem Visits.not_stopped {n : Node} {context : Fields} {stop : Stop}
    (h : Visits w e n context t (.error (l, stop))) (stored : Stored t) : ¬ Served t := by
  obtain ⟨f, _, _, _, work, -⟩ | ⟨_, _, h⟩ := h.work stored
  · exact not_served work
  · cases h

/-- When nobody interferes, nothing but a cycle can stop a walk over connections without
conditions. -/
theorem Account.stop_of_halt {s : Walk} {v : List Event} {stop : Option Stop}
    (h : Account w start u s) (halt : Halt w ticket s v (l, stop)) (activatable : w.Activatable)
    (unconditional : ∀ c ∈ w.connections, c.conditions = []) (served : Served (exchanges v))
    (stored : Stored (exchanges v)) (uncancelled : Uncancelled (exchanges v)) :
    stop = none ∨ ∃ path, stop = some (.ended (.cycle path w.id)) := by
  cases halt with
  | finished => exact .inl rfl
  | cancelled => exact absurd (.head _) (uncancelled ticket)
  | raised raises =>
      cases (result_of_unconditional (unconditional _ h.source_connection.1)).symm.trans raises
  | unskipped no skips =>
      cases (result_of_unconditional (unconditional _ h.source_connection.1)).symm.trans no
  | lost yes target =>
      have found := activatable.node?_isSome h.source_connection.1
      rw [target] at found
      cases found
  | cycle yes target back => exact .inr ⟨_, rfl⟩
  | stopped yes target away fresh visits =>
      rw [exchanges_stepped] at served stored
      exact absurd (served.of_cons) (visits.not_stopped (stored_cons.mp stored).2)

theorem Traverses.stop {n : Node} {ns : List Node} {stop : Option Stop}
    (prepared : Prepared w e) (first : w.triggers = n :: ns) (h : Traverses w ticket e u (l, stop))
    (unconditional : ∀ c ∈ w.connections, c.conditions = []) (served : Served (exchanges u))
    (stored : Stored (exchanges u)) (uncancelled : Uncancelled (exchanges u)) :
    stop = none ∨ ∃ path, stop = some (.ended (.cycle path w.id)) := by
  obtain ⟨_, _, _, visits, rfl, -⟩ | ⟨_, _, _, account, halt, rfl⟩ :=
    h.exists_halt (P := Account w n.id) prepared first
      (.first prepared (Workflow.mem_nodes_of_triggers first)) Account.turn
  · rw [exchanges_begun] at served stored
    exact absurd served (visits.not_stopped stored)
  · rw [exchanges_append] at served stored uncancelled
    exact account.stop_of_halt halt prepared.activatable unconditional served.of_append.2
      ((stored_append _ _).mp stored).2 ((uncancelled_append _ _).mp uncancelled).2

theorem Account.reachable {s : Walk} (h : Account w start u s) {id : String}
    (succeeded : id ∈ enteredIds u) : ReflTransGen (Joined w) start id := by
  have closed : {id | ReflTransGen (Joined w) start id} ∈ closedSets w start u := by
    exact ⟨.refl, fun n context _ reached c hc source _ => reached.tail ⟨c, hc, source, rfl⟩⟩
  obtain ⟨step, hs, success, rfl⟩ := h.exists_success succeeded
  exact h.led.subset closed hs success

theorem Account.taken (h : Account w start u ⟨e, []⟩)
    (unconditional : ∀ c ∈ w.connections, c.conditions = []) {a b : String}
    (entered : a ∈ enteredIds u) (joined : Joined w a b) : Taken u a b ∧ b ∈ enteredIds u := by
  obtain ⟨c, hc, ha, rfl⟩ := joined
  obtain ⟨⟨n, context⟩, hn, rfl⟩ := List.mem_map.mp entered
  have evaluated := h.evaluated_of_entered hn (mem_outgoing.mpr ⟨hc, ha⟩)
  have yes := result_of_unconditional (x := context) (unconditional c hc)
  exact ⟨⟨_, evaluated, yes, ha, rfl⟩, h.entered_of_yes evaluated yes⟩

theorem Account.acyclic_of_reachable {n : String} (h : Account w n u ⟨e, []⟩)
    (unconditional : ∀ c ∈ w.connections, c.conditions = []) {a : String}
    (reachable : ReflTransGen (Joined w) n a) : ¬ TransGen (Joined w) a a := by
  have entered : a ∈ enteredIds u := by
    induction reachable with
    | refl => exact h.begun
    | tail _ joined ih => exact (h.taken unconditional ih joined).2
  intro cycle
  -- along a path from a node that was entered, every connection was taken
  have taken {b : String} (path : TransGen (Joined w) a b) :
      TransGen (Taken u) a b ∧ b ∈ enteredIds u := by
    induction path with
    | single joined =>
        obtain ⟨taken, entered⟩ := h.taken unconditional entered joined
        exact ⟨.single taken, entered⟩
    | tail _ joined ih =>
        obtain ⟨taken, entered⟩ := h.taken unconditional ih.2 joined
        exact ⟨ih.1.tail taken, entered⟩
  exact h.acyclic a (taken cycle).1

theorem transGen_of_isChain {r : String → String → Prop} {a b : String} {ids : List String}
    (h : (a :: ids ++ [b]).IsChain r) : TransGen r a b := by
  induction ids generalizing a with
  | nil => exact .single (List.rel_of_isChain_cons_cons h)
  | cons c ids ih =>
      obtain ⟨hac, rest⟩ := List.isChain_cons_cons.mp h
      exact .head hac (ih rest)

theorem Closes.cycle {path : List String} (h : Closes w u e path) :
    ∃ a ∈ succeeded e, TransGen (Joined w) a a := by
  obtain ⟨⟨id, ids, rfl, -, within⟩, followed⟩ := h
  exact ⟨id, within id List.mem_cons_self,
    transGen_of_isChain (followed.imp fun _ _ hf => hf.joined)⟩

theorem Halt.record_of_cycle {s : Walk} {v : List Event} {err : EngineError} {path : List String}
    (h : Halt w ticket s v (l, some (.ended err))) (kind : err.kind = .cycle path) :
    l = s.record := by
  cases h with
  | cancelled | cycle => rfl
  | stopped yes target away fresh visits =>
      obtain ⟨_, rfl⟩ := visits.ended
      cases kind

theorem Traverses.cycle {n : Node} {ns : List Node} {err : EngineError} {path : List String}
    (prepared : Prepared w e) (first : w.triggers = n :: ns)
    (h : Traverses w ticket e u (l, some (.ended err))) (kind : err.kind = .cycle path) :
    ∃ a, ReflTransGen (Joined w) n.id a ∧ TransGen (Joined w) a a := by
  obtain ⟨a, succeeded, cycle⟩ := (h.closes prepared first kind).cycle
  obtain ⟨_, _, _, visits, -, ended⟩ | ⟨_, _, _, account, halt, -⟩ :=
    h.exists_halt (P := Account w n.id) prepared first
      (.first prepared (Workflow.mem_nodes_of_triggers first)) Account.turn
  · cases ended
    obtain ⟨_, rfl⟩ := visits.ended
    cases kind
  · rw [halt.record_of_cycle kind] at succeeded
    exact ⟨a, account.reachable (account.succeeded_iff.mp succeeded), cycle⟩

/-- Over connections without conditions, when nobody interferes, a walk comes to its end if and only
if no cycle can be reached. -/
theorem Traverses.stop_eq_none_iff {n : Node} {ns : List Node} {stop : Option Stop}
    (prepared : Prepared w e) (first : w.triggers = n :: ns) (h : Traverses w ticket e u (l, stop))
    (unconditional : ∀ c ∈ w.connections, c.conditions = []) (served : Served (exchanges u))
    (stored : Stored (exchanges u)) (uncancelled : Uncancelled (exchanges u)) :
    stop = none ↔ ∀ a, ReflTransGen (Joined w) n.id a → ¬ TransGen (Joined w) a a := by
  constructor
  · rintro rfl a reachable
    exact (h.account prepared first).acyclic_of_reachable unconditional reachable
  · intro acyclic
    obtain none | ⟨path, rfl⟩ :=
      h.stop prepared first unconditional served stored uncancelled
    · exact none
    · obtain ⟨a, reachable, cycle⟩ := h.cycle prepared first rfl
      exact absurd cycle (acyclic a reachable)

theorem Course.completes_iff {s : Execution × Option Stop} {r : Except Failure Execution}
    (h : Course w e u s t r) (running : e.status = .running) (stored : Stored t) :
    (∃ d, r = .ok d ∧ d.status = .completed) ↔ s.2 = none := by
  constructor
  · rintro ⟨d, rfl, completed⟩
    have saved : d ∈ savings t := by
      cases h with
      | intro traverses concludes =>
          rw [savings_append]
          exact List.mem_append_right _ concludes.mem_savings
    exact (h.completed running saved completed).1
  · intro none
    cases h with
    | @intro _ _ s _ _ traverses concludes =>
        obtain ⟨l, stop⟩ := s
        cases none
        rw [stored_append] at stored
        obtain ⟨_, taken, -⟩ | ⟨ended, finish, taken, rfl⟩ := concludes.of_stored stored.2
        · cases taken
        · cases taken
          exact ⟨_, rfl, rfl⟩

/-- The cycles that a run detects are cycles that it followed; a run that ends completed took none;
and over connections without conditions, when nobody interferes, a run completes if and only if no
cycle can be reached. -/
theorem run_detects_cycles {data : Value} {t₀ : List Exchange} {r : Except Failure Execution}
    (accepted : (prepare w data).Ends t₀ (.ok e)) (ran : (run w alone e).Ends t r) :
    ∃ n ns u l stop, w.triggers = n :: ns ∧ Course w e u (l, stop) t r ∧
      (∀ err path, stop = some (.ended err) → err.kind = .cycle path → Closes w u l path) ∧
      (∀ d ∈ savings t, d.status = .completed → ∀ a, ¬ TransGen (Taken u) a a) ∧
      ((∀ c ∈ w.connections, c.conditions = []) → Served t → Stored t → Uncancelled t →
        ((∃ d, r = .ok d ∧ d.status = .completed) ↔
          ∀ a, ReflTransGen (Joined w) n.id a → ¬ TransGen (Joined w) a a)) := by
  have prepared := prepared_of_ends accepted
  obtain ⟨n, ns, first⟩ := prepared.activatable.trigger
  obtain ⟨u, ⟨l, stop⟩, course⟩ := course_of_ends ran
  refine ⟨n, ns, u, l, stop, first, course, ?_, ?_, ?_⟩
  · rintro err path rfl kind
    cases course with
    | intro traverses concludes => exact traverses.closes prepared first kind
  · intro d ended completed
    obtain ⟨rfl, -⟩ := course.completed prepared.running ended completed
    cases course with
    | intro traverses concludes => exact (traverses.account prepared first).acyclic
  · intro unconditional served stored uncancelled
    rw [course.completes_iff prepared.running stored]
    cases course with
    | intro traverses concludes =>
        rw [stored_append] at stored
        rw [uncancelled_append] at uncancelled
        exact traverses.stop_eq_none_iff prepared first unconditional
          served.of_append.1.of_cons (stored_cons.mp stored.1).2
          (uncancelled_cons.mp uncancelled.1).2

/-- A trigger that leads to an action which leads to itself. -/
def looping : Workflow :=
  { sample with
    connections := [⟨"a", "start", "log", [], .and⟩, ⟨"b", "log", "log", [], .and⟩] }

theorem looping_prepared :
    (prepare looping .null).Ends ((prepare looping .null).exchange calm ()) (.ok sampleRecord) :=
  ends_run calm (prepare looping .null) ()

theorem looping_detects_cycles : ∃ r, (run looping alone sampleRecord).Ends
    ((run looping alone sampleRecord).exchange calm ()) r ∧
      ¬ ∃ d, r = .ok d ∧ d.status = .completed := by
  have ran := ends_run calm (run looping alone sampleRecord) ()
  obtain ⟨n, ns, u, l, stop, first, -, -, -, iff⟩ := run_detects_cycles looping_prepared ran
  refine ⟨_, ran, fun completes => ?_⟩
  have acyclic :=
    (iff (by decide) (served_calm _) (stored_calm _) (uncancelled_calm _)).mp completes
  cases first
  have entered : Joined looping "start" "log" := ⟨_, List.mem_cons_self, rfl, rfl⟩
  have loops : Joined looping "log" "log" := ⟨_, .tail _ (.head _), rfl, rfl⟩
  exact acyclic "log" (.single entered) (.single loops)

end TriggerFlow.Engine
