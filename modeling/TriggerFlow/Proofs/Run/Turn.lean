import TriggerFlow.Proofs.Run.Events

/-!
The walk as a machine. A turn looks for a cancel request and then leaves the node on top of the
path or looks at its next connection; what happens in it is kept as events. Every walk is a sequence
of turns with a halt at its end.
-/

namespace TriggerFlow.Engine

open Program

/-- A walk between two turns: the record and the path. -/
structure Walk where
  record : Execution
  frames : List Frame

/-- One turn after which the walk goes on. -/
inductive Turn (w : Workflow) (ticket : Ticket) : Walk → List Event → Walk → Prop
  | leave {e : Execution} {n : Node} {x y : Fields} {below : List Frame} :
      Turn w ticket ⟨e, ⟨n, x, y, []⟩ :: below⟩
        [.exchange (polling ticket false), .left n.id] ⟨e, below⟩
  | skip {e l : Execution} {n : Node} {x y : Fields} {c : Connection} {rest : List Connection}
      {below : List Frame} {t : List Exchange} (no : Evaluation.result ⟨c, x⟩ = .ok false)
      (skips : Skips w e c t (l, .ok ())) :
      Turn w ticket ⟨e, ⟨n, x, y, c :: rest⟩ :: below⟩
        (.exchange (polling ticket false) :: .evaluated ⟨c, x⟩ :: plain t)
        ⟨l, ⟨n, x, y, rest⟩ :: below⟩
  | pass {e : Execution} {n m : Node} {x y : Fields} {c : Connection} {rest : List Connection}
      {below : List Frame} (yes : Evaluation.result ⟨c, x⟩ = .ok true)
      (target : w.node? c.target = some m)
      (away : m.id ∉ pathOf (⟨n, x, y, rest⟩ :: below))
      (succeeded : (e.successfulStep? m.id).isSome = true) :
      Turn w ticket ⟨e, ⟨n, x, y, c :: rest⟩ :: below⟩
        [.exchange (polling ticket false), .evaluated ⟨c, x⟩] ⟨e, ⟨n, x, y, rest⟩ :: below⟩
  | enter {e l : Execution} {n m : Node} {x y : Fields} {c : Connection}
      {rest : List Connection} {below : List Frame} {t : List Exchange} {v : Visit}
      (yes : Evaluation.result ⟨c, x⟩ = .ok true) (target : w.node? c.target = some m)
      (away : m.id ∉ pathOf (⟨n, x, y, rest⟩ :: below))
      (fresh : (e.successfulStep? m.id).isSome = false)
      (visits : Visits w e m (Key.overlay x y) t (.ok (l, v))) :
      Turn w ticket ⟨e, ⟨n, x, y, c :: rest⟩ :: below⟩
        (.exchange (polling ticket false) :: .evaluated ⟨c, x⟩ ::
          .entered m (Key.overlay x y) :: plain t)
        ⟨l, Frame.enter w m (Key.overlay x y) v :: ⟨n, x, y, rest⟩ :: below⟩

/-- The end of a walk, which may be in the middle of a turn. -/
inductive Halt (w : Workflow) (ticket : Ticket) :
    Walk → List Event → Execution × Option Stop → Prop
  | finished {e : Execution} : Halt w ticket ⟨e, []⟩ [] (e, none)
  | cancelled {e : Execution} {f : Frame} {below : List Frame} :
      Halt w ticket ⟨e, f :: below⟩ [.exchange (polling ticket true)]
        (e, some (.ended (.cancelled w.id)))
  | raised {e : Execution} {n : Node} {x y : Fields} {c : Connection} {rest : List Connection}
      {below : List Frame} {f : Failure} (raises : Evaluation.result ⟨c, x⟩ = .error f) :
      Halt w ticket ⟨e, ⟨n, x, y, c :: rest⟩ :: below⟩
        [.exchange (polling ticket false), .evaluated ⟨c, x⟩] (e, some (.aborted f))
  | unskipped {e l : Execution} {n : Node} {x y : Fields} {c : Connection}
      {rest : List Connection} {below : List Frame} {t : List Exchange} {f : Failure}
      (no : Evaluation.result ⟨c, x⟩ = .ok false) (skips : Skips w e c t (l, .error f)) :
      Halt w ticket ⟨e, ⟨n, x, y, c :: rest⟩ :: below⟩
        (.exchange (polling ticket false) :: .evaluated ⟨c, x⟩ :: plain t)
        (l, some (.aborted f))
  | lost {e : Execution} {n : Node} {x y : Fields} {c : Connection} {rest : List Connection}
      {below : List Frame} (yes : Evaluation.result ⟨c, x⟩ = .ok true)
      (target : w.node? c.target = none) :
      Halt w ticket ⟨e, ⟨n, x, y, c :: rest⟩ :: below⟩
        [.exchange (polling ticket false), .evaluated ⟨c, x⟩]
        (e, some (.aborted (.nothingHas "id")))
  | cycle {e : Execution} {n m : Node} {x y : Fields} {c : Connection} {rest : List Connection}
      {below : List Frame} (yes : Evaluation.result ⟨c, x⟩ = .ok true)
      (target : w.node? c.target = some m) (back : m.id ∈ pathOf (⟨n, x, y, rest⟩ :: below)) :
      Halt w ticket ⟨e, ⟨n, x, y, c :: rest⟩ :: below⟩
        [.exchange (polling ticket false), .evaluated ⟨c, x⟩]
        (e, some (.ended (.cycle (cycleThrough (⟨n, x, y, rest⟩ :: below) m.id) w.id)))
  | stopped {e l : Execution} {n m : Node} {x y : Fields} {c : Connection}
      {rest : List Connection} {below : List Frame} {t : List Exchange} {stop : Stop}
      (yes : Evaluation.result ⟨c, x⟩ = .ok true) (target : w.node? c.target = some m)
      (away : m.id ∉ pathOf (⟨n, x, y, rest⟩ :: below))
      (fresh : (e.successfulStep? m.id).isSome = false)
      (visits : Visits w e m (Key.overlay x y) t (.error (l, stop))) :
      Halt w ticket ⟨e, ⟨n, x, y, c :: rest⟩ :: below⟩
        (.exchange (polling ticket false) :: .evaluated ⟨c, x⟩ ::
          .entered m (Key.overlay x y) :: plain t)
        (l, some stop)

/-- The rest of a walk, to its end. -/
inductive Walks (w : Workflow) (ticket : Ticket) :
    Walk → List Event → Execution × Option Stop → Prop
  | halt {s : Walk} {u : List Event} {r : Execution × Option Stop} (h : Halt w ticket s u r) :
      Walks w ticket s u r
  | turn {s s' : Walk} {u v : List Event} {r : Execution × Option Stop} (h : Turn w ticket s u s')
      (rest : Walks w ticket s' v r) : Walks w ticket s (u ++ v) r

variable {w : Workflow} {ticket : Ticket}

/-- What every turn preserves holds of the walk when it halts, together with what happened. -/
theorem Walks.exists_halt {P : List Event → Walk → Prop} {s : Walk} {u v : List Event}
    {r : Execution × Option Stop}
    (preserved : ∀ {u v s s'}, P u s → Turn w ticket s v s' → P (u ++ v) s')
    (h : Walks w ticket s v r) (start : P u s) :
    ∃ u' s' v', P u' s' ∧ Halt w ticket s' v' r ∧ u ++ v = u' ++ v' := by
  induction h generalizing u with
  | halt h => exact ⟨u, _, _, start, h, rfl⟩
  | turn h _ ih =>
      obtain ⟨u', s', v', hp, hh, heq⟩ := ih (preserved start h)
      exact ⟨u', s', v', hp, hh, by rw [← heq, List.append_assoc]⟩

def OnlySteps (e l : Execution) : Prop := l = { e with steps := l.steps }

theorem onlySteps_refl (e : Execution) : OnlySteps e e := rfl

theorem onlySteps_addStep {e l : Execution} (h : OnlySteps e l) (s : Step) :
    OnlySteps e (l.addStep s) := by
  rw [OnlySteps] at h
  rw [h]
  rfl

theorem OnlySteps.id {e l : Execution} (h : OnlySteps e l) : l.id = e.id := by
  rw [OnlySteps] at h
  rw [h]

theorem OnlySteps.workflow {e l : Execution} (h : OnlySteps e l) : l.workflow = e.workflow := by
  rw [OnlySteps] at h
  rw [h]

theorem OnlySteps.tenant {e l : Execution} (h : OnlySteps e l) : l.tenant = e.tenant := by
  rw [OnlySteps] at h
  rw [h]

theorem OnlySteps.status {e l : Execution} (h : OnlySteps e l) : l.status = e.status := by
  rw [OnlySteps] at h
  rw [h]

theorem OnlySteps.error {e l : Execution} (h : OnlySteps e l) : l.error = e.error := by
  rw [OnlySteps] at h
  rw [h]

theorem Turn.onlySteps {e : Execution} {s s' : Walk} {u : List Event}
    (hs : OnlySteps e s.record) (h : Turn w ticket s u s') : OnlySteps e s'.record := by
  cases h with
  | leave | pass => exact hs
  | skip no skips =>
      obtain ⟨_, _, rfl⟩ := skips.record
      exact onlySteps_addStep hs _
  | enter yes target away fresh visits =>
      rw [visits.record]
      exact onlySteps_addStep hs _

theorem Halt.onlySteps {e : Execution} {s : Walk} {u : List Event} {r : Execution × Option Stop}
    (hs : OnlySteps e s.record) (h : Halt w ticket s u r) : OnlySteps e r.1 := by
  cases h with
  | finished | cancelled | raised | lost | cycle => exact hs
  | unskipped no skips =>
      obtain ⟨_, _, rfl⟩ := skips.record
      exact onlySteps_addStep hs _
  | stopped yes target away fresh visits =>
      obtain ⟨_, rfl, -⟩ := visits.only_steps
      exact onlySteps_addStep hs _

theorem Walks.onlySteps {e : Execution} {s : Walk} {u : List Event} {r : Execution × Option Stop}
    (hs : OnlySteps e s.record) (h : Walks w ticket s u r) : OnlySteps e r.1 := by
  induction h with
  | halt h => exact h.onlySteps hs
  | turn ht _ ih => exact ih (ht.onlySteps hs)

theorem Turn.of_mem_savings {s s' : Walk} {u : List Event} {l : Execution}
    (h : Turn w ticket s u s') (hl : l ∈ savings (exchanges u)) :
    ∃ step, l = s.record.addStep step := by
  cases h with
  | leave | pass => cases hl
  | skip no skips =>
      rw [exchanges_looked, savings_polling] at hl
      exact skips.of_mem_savings hl
  | enter yes target away fresh visits =>
      rw [exchanges_stepped, savings_polling] at hl
      obtain ⟨step, hstep, -⟩ := visits.of_mem_savings hl
      exact ⟨step, hstep⟩

theorem Halt.of_mem_savings {s : Walk} {u : List Event} {r : Execution × Option Stop}
    (h : Halt w ticket s u r) {l : Execution} (hl : l ∈ savings (exchanges u)) :
    ∃ step, l = s.record.addStep step := by
  cases h with
  | finished | cancelled | raised | lost | cycle => cases hl
  | unskipped no skips =>
      rw [exchanges_looked, savings_polling] at hl
      exact skips.of_mem_savings hl
  | stopped yes target away fresh visits =>
      rw [exchanges_stepped, savings_polling] at hl
      obtain ⟨step, hstep, -⟩ := visits.of_mem_savings hl
      exact ⟨step, hstep⟩

/-- Whatever a walk saves differs from the record it started with in the steps only. -/
theorem Walks.of_mem_savings {e l : Execution} {s : Walk} {u : List Event}
    {r : Execution × Option Stop} (h : Walks w ticket s u r) (hs : OnlySteps e s.record)
    (hl : l ∈ savings (exchanges u)) : OnlySteps e l := by
  induction h with
  | halt h =>
      obtain ⟨step, rfl⟩ := h.of_mem_savings hl
      exact onlySteps_addStep hs step
  | turn ht _ ih =>
      rw [exchanges_append, savings_append] at hl
      obtain hl | hl := List.mem_append.mp hl
      · obtain ⟨step, rfl⟩ := ht.of_mem_savings hl
        exact onlySteps_addStep hs step
      · exact ih (ht.onlySteps hs) hl

theorem Halt.kind_ne_cancelled {s : Walk} {u : List Event} {l : Execution} {err : EngineError}
    (h : Halt w ticket s u (l, some (.ended err))) (uncancelled : Uncancelled (exchanges u)) :
    err.kind ≠ .cancelled := by
  cases h with
  | cancelled => exact absurd (.head _) (uncancelled ticket)
  | cycle => exact nofun
  | stopped yes target away fresh visits =>
      obtain ⟨_, rfl⟩ := visits.ended
      exact nofun

theorem Walks.kind_ne_cancelled {s : Walk} {u : List Event} {r : Execution × Option Stop}
    (h : Walks w ticket s u r) (uncancelled : Uncancelled (exchanges u)) {err : EngineError}
    (ended : r.2 = some (.ended err)) : err.kind ≠ .cancelled := by
  induction h with
  | @halt _ _ r h =>
      obtain ⟨l, stop⟩ := r
      cases ended
      exact h.kind_ne_cancelled uncancelled
  | turn _ _ ih =>
      rw [exchanges_append, uncancelled_append] at uncancelled
      exact ih uncancelled.2 ended

theorem advancedTo_addStep (e : Execution) (s : Step) :
    e.advancedTo (e.addStep s) = e.addStep s := by
  have keeps : e.keeps (e.addStep s) = true := by
    rw [Execution.keeps, List.all_eq_true]
    intro r hr
    by_cases h : r.status = .success
    · have : ((e.addStep s).successfulStep? r.node).isSome = true := by
        rw [Execution.successfulStep?, List.find?_isSome]
        exact ⟨r, by simp [Execution.addStep, hr], by simp [h]⟩
      simp [this]
    · simp [h]
  simp [Execution.advancedTo, keeps]

theorem ends_visiting {e : Execution} {m : Node} {context : Fields}
    {next : Execution → Visit → Work (Execution × Option Stop)} {t : List Exchange}
    {r : Execution × Option Stop}
    (h : (do
      match ← visit w alone e m context with
      | .error (l, stop) => return (l, some stop)
      | .ok (l, v) => next l v : Work (Execution × Option Stop)).Ends t r) :
    (∃ l stop, Visits w e m context t (.error (l, stop)) ∧ r = (l, some stop)) ∨
      ∃ l v t₁ t₂, Visits w e m context t₁ (.ok (l, v)) ∧ (next l v).Ends t₂ r ∧ t = t₁ ++ t₂ := by
  obtain ⟨outcome, t₁, t₂, visits, rest, rfl⟩ := ends_andThen.mp h
  match outcome with
  | .error (l, stop) =>
      obtain ⟨rfl, rfl⟩ := ends_pure.mp rest
      rw [List.append_nil]
      exact .inl ⟨l, stop, visits_of_ends visits, rfl⟩
  | .ok (l, v) => exact .inr ⟨l, v, t₁, t₂, visits_of_ends visits, rest, rfl⟩

theorem ends_skipping {e : Execution} {c : Connection}
    {next : Execution → Work (Execution × Option Stop)} {t : List Exchange}
    {r : Execution × Option Stop}
    (h : (do
      match ← skip w alone e c with
      | (l, .error f) => return (l, some (.aborted f))
      | (l, .ok _) => next l : Work (Execution × Option Stop)).Ends t r) :
    (∃ l f, Skips w e c t (l, .error f) ∧ r = (l, some (.aborted f))) ∨
      ∃ l t₁ t₂, Skips w e c t₁ (l, .ok ()) ∧ (next l).Ends t₂ r ∧ t = t₁ ++ t₂ := by
  obtain ⟨⟨l, outcome⟩, t₁, t₂, skips, rest, rfl⟩ := ends_andThen.mp h
  cases outcome with
  | error f =>
      obtain ⟨rfl, rfl⟩ := ends_pure.mp rest
      rw [List.append_nil]
      exact .inl ⟨l, f, skips_of_ends skips, rfl⟩
  | ok _ => exact .inr ⟨l, t₁, t₂, skips_of_ends skips, rest, rfl⟩

theorem walks_of_ends {e : Execution} {frames : List Frame}
    {t : List Exchange} {r : Execution × Option Stop}
    (h : (walk w alone ticket e frames).Ends t r) :
    ∃ u, Walks w ticket ⟨e, frames⟩ u r ∧ exchanges u = t := by
  -- by the recursion of the walk, with a hypothesis for every turn after which it goes on
  induction e, frames using walk.induct w generalizing t r with
  | case1 e =>
      rw [walk] at h
      obtain ⟨rfl, rfl⟩ := ends_pure.mp h
      exact ⟨[], .halt .finished, rfl⟩
  | case2 e frame below left skipped passed entered =>
      rw [walk] at h
      obtain ⟨(requested : Bool), _, h₁, rfl⟩ := ends_ask_andThen.mp h
      cases requested with
      | true =>
          obtain ⟨rfl, rfl⟩ := ends_pure.mp h₁
          exact ⟨_, .halt .cancelled, rfl⟩
      | false =>
          obtain ⟨n, x, y, remaining⟩ := frame
          cases remaining with
          | nil =>
              obtain ⟨u, hu, rfl⟩ := left h₁
              exact ⟨_, .turn .leave hu, rfl⟩
          | cons c rest =>
              dsimp only at h₁
              rw [if_neg Bool.false_ne_true] at h₁
              generalize hv : Condition.hold c.conditions c.logic (.obj x) = result at h₁
              match result with
              | .error f =>
                  obtain ⟨rfl, rfl⟩ := ends_pure.mp h₁
                  exact ⟨_, .halt (.raised hv), rfl⟩
              | .ok false =>
                  obtain ⟨l, f, skips, rfl⟩ | ⟨l, _, _, skips, h₂, rfl⟩ := ends_skipping h₁
                  · exact ⟨_, .halt (.unskipped hv skips), exchanges_looked ..⟩
                  · obtain ⟨u, hu, rfl⟩ := skipped c rest rfl l h₂
                    obtain ⟨_, _, rfl⟩ := skips.record
                    rw [advancedTo_addStep] at hu
                    exact ⟨_, .turn (.skip hv skips) hu, by simp [polling]⟩
              | .ok true =>
                  dsimp only at h₁
                  split at h₁
                  · next target =>
                    obtain ⟨rfl, rfl⟩ := ends_pure.mp h₁
                    exact ⟨_, .halt (.lost hv target), rfl⟩
                  next m target =>
                  split at h₁
                  · next back =>
                    obtain ⟨rfl, rfl⟩ := ends_pure.mp h₁
                    exact ⟨_, .halt (.cycle hv target (by simpa using back)), rfl⟩
                  next away =>
                  have away : m.id ∉ pathOf (⟨n, x, y, rest⟩ :: below) := by simpa using away
                  split at h₁
                  · next succeeded =>
                    obtain ⟨u, hu, rfl⟩ := passed c rest rfl h₁
                    exact ⟨_, .turn (.pass hv target away succeeded) hu, rfl⟩
                  next fresh =>
                  have fresh := Bool.eq_false_iff.mpr fresh
                  obtain ⟨l, stop, visits, rfl⟩ | ⟨l, v, _, _, visits, h₂, rfl⟩ := ends_visiting h₁
                  · exact ⟨_, .halt (.stopped hv target away fresh visits), exchanges_stepped ..⟩
                  · obtain ⟨u, hu, rfl⟩ := entered c rest rfl m target (by simp [fresh]) l v h₂
                    rw [visits.record, Execution.advancedTo_self, ← visits.record] at hu
                    exact ⟨_, .turn (.enter hv target away fresh visits) hu, by simp [polling]⟩

end TriggerFlow.Engine
