import TriggerFlow.Proofs.Run.Turn

/-!
Whole runs. A record that was prepared has no step, and its workflow has a trigger and no dangling
connection; a run traverses the graph from the first trigger and then concludes: it stores the end
of the record, counts a completion and leaves the registry.
-/

namespace TriggerFlow

namespace Workflow

theorem danglingEnd?_eq_none {ids : List String} {cs : List Connection}
    (h : danglingEnd? ids cs = none) {c : Connection} (hc : c ∈ cs) :
    c.source ∈ ids ∧ c.target ∈ ids := by
  induction cs with
  | nil => cases hc
  | cons d cs ih =>
      rw [danglingEnd?] at h
      split at h
      · cases h
      · next hd =>
        rcases List.mem_cons.mp hc with rfl | hc
        · simpa using hd
        · exact ih h hc

theorem mem_nodes_of_triggers {w : Workflow} {n : Node} {ns : List Node}
    (first : w.triggers = n :: ns) : n ∈ w.nodes := by
  have hn : n ∈ w.triggers := first ▸ List.mem_cons_self
  exact (List.mem_filter.mp hn).1

/-- A workflow that may go live. -/
structure Activatable (w : Workflow) : Prop where
  trigger : ∃ n ns, w.triggers = n :: ns
  joined : ∀ c ∈ w.connections, c.source ∈ w.nodes.map (·.id) ∧ c.target ∈ w.nodes.map (·.id)

theorem Activatable.node?_isSome {w : Workflow} (h : w.Activatable) {c : Connection}
    (hc : c ∈ w.connections) : (w.node? c.target).isSome = true := by
  obtain ⟨n, hn, target⟩ := List.mem_map.mp (h.joined c hc).2
  rw [Graph.node?, List.find?_isSome]
  exact ⟨n, hn, by simpa using target⟩

theorem activatable_of_check {w : Workflow} (h : w.checkActivation = .ok ()) : w.Activatable := by
  have hn : w.activationError? = none := by
    unfold checkActivation at h
    split at h
    · cases h
    · assumption
  unfold activationError? at hn
  split at hn
  · cases hn
  split at hn
  · cases hn
  next ht =>
    refine ⟨?_, fun c hc => danglingEnd?_eq_none (Option.map_eq_none_iff.mp hn) hc⟩
    cases hw : w.triggers with
    | nil => simp [hw] at ht
    | cons n ns => exact ⟨n, ns, rfl⟩

end Workflow

namespace Engine

open Program

variable {w : Workflow} {e l : Execution} {t : List Exchange}

/-- A record with which a run of the workflow starts. -/
structure Prepared (w : Workflow) (e : Execution) : Prop where
  activatable : w.Activatable
  active : w.status = .active
  running : e.status = .running
  unstarted : e.steps = []
  unflawed : e.error = none

theorem newExecution_eq_ok {fields : Fields} {id : String} {start : Moment}
    (h : newExecution w fields id start = .ok e) :
    ∃ workflow, w.id = some workflow ∧
      e = ⟨id, workflow, w.tenant, .running, fields, [], start, none, none⟩ := by
  unfold newExecution at h
  split at h
  · next workflow named _ =>
    cases h
    exact ⟨workflow, named, rfl⟩
  · cases h
  · cases h

theorem prepared_of_ends {data : Value} (h : (prepare w data).Ends t (.ok e)) : Prepared w e := by
  unfold prepare at h
  split at h
  · cases (ends_pure.mp h).2
  next active =>
  split at h
  · cases (ends_pure.mp h).2
  next check =>
  obtain ⟨id, _, _, -, h₁, -⟩ := ends_andThen.mp h
  split at h₁
  · cases (ends_pure.mp h₁).2
  obtain ⟨start, _, _, -, h₂, -⟩ := ends_andThen.mp h₁
  split at h₂
  · cases (ends_pure.mp h₂).2
  next new =>
  obtain ⟨r, _, _, -, h₃, -⟩ := ends_andThen.mp h₂
  cases r with
  | error f => cases (ends_pure.mp h₃).2
  | ok _ =>
      obtain ⟨_, _, _, -, h₄, -⟩ := ends_andThen.mp h₃
      obtain ⟨_, _, _, -, h₅, -⟩ := ends_andThen.mp h₄
      cases (ends_pure.mp h₅).2
      obtain ⟨workflow, -, rfl⟩ := newExecution_eq_ok new
      exact ⟨Workflow.activatable_of_check check, Decidable.not_not.mp active, rfl, rfl, rfl⟩

/-- How a walk from the first trigger can go. -/
inductive Traverses (w : Workflow) (ticket : Ticket) (e : Execution) :
    List Event → Execution × Option Stop → Prop
  | triggerless (none : w.triggers = []) :
      Traverses w ticket e [] (e, some (.ended (.noTriggerToRun w.id)))
  | succeeded {n : Node} {ns : List Node} (first : w.triggers = n :: ns)
      (succeeded : (e.successfulStep? n.id).isSome = true) : Traverses w ticket e [] (e, none)
  | stopped {n : Node} {ns : List Node} {l : Execution} {stop : Stop} {t : List Exchange}
      (first : w.triggers = n :: ns) (fresh : (e.successfulStep? n.id).isSome = false)
      (visits : Visits w e n e.triggerData t (.error (l, stop))) :
      Traverses w ticket e (.entered n e.triggerData :: plain t) (l, some stop)
  | walked {n : Node} {ns : List Node} {l : Execution} {v : Visit} {t : List Exchange}
      {u : List Event} {r : Execution × Option Stop} (first : w.triggers = n :: ns)
      (fresh : (e.successfulStep? n.id).isSome = false)
      (visits : Visits w e n e.triggerData t (.ok (l, v)))
      (walks : Walks w ticket ⟨l, [Frame.enter w n e.triggerData v]⟩ u r) :
      Traverses w ticket e (.entered n e.triggerData :: plain t ++ u) r

theorem Traverses.onlySteps {ticket : Ticket} {u : List Event} {r : Execution × Option Stop}
    (h : Traverses w ticket e u r) : OnlySteps e r.1 := by
  cases h with
  | triggerless | succeeded => exact onlySteps_refl e
  | stopped first fresh visits =>
      obtain ⟨_, rfl, -⟩ := visits.only_steps
      exact onlySteps_addStep (onlySteps_refl e) _
  | walked first fresh visits walks =>
      exact walks.onlySteps (visits.record ▸ onlySteps_addStep (onlySteps_refl e) _)

theorem Traverses.of_mem_savings {ticket : Ticket} {u : List Event} {r : Execution × Option Stop}
    (h : Traverses w ticket e u r) (hl : l ∈ savings (exchanges u)) : OnlySteps e l := by
  have first {n : Node} {t : List Exchange} {r : Except (Execution × Stop) (Execution × Visit)}
      (visits : Visits w e n e.triggerData t r) (hl : l ∈ savings t) : OnlySteps e l := by
    obtain ⟨step, rfl, -⟩ := visits.of_mem_savings hl
    exact onlySteps_addStep (onlySteps_refl e) step
  cases h with
  | triggerless | succeeded => cases hl
  | stopped _ fresh visits =>
      rw [exchanges_begun] at hl
      exact first visits hl
  | walked _ fresh visits walks =>
      rw [exchanges_append, exchanges_begun, savings_append] at hl
      obtain hl | hl := List.mem_append.mp hl
      · exact first visits hl
      · exact walks.of_mem_savings (visits.record ▸ onlySteps_addStep (onlySteps_refl e) _) hl

theorem Traverses.kind_ne_cancelled {ticket : Ticket} {u : List Event} {err : EngineError}
    (h : Traverses w ticket e u (l, some (.ended err))) (uncancelled : Uncancelled (exchanges u)) :
    err.kind ≠ .cancelled := by
  cases h with
  | triggerless => exact nofun
  | stopped first fresh visits =>
      obtain ⟨_, rfl⟩ := visits.ended
      exact nofun
  | walked first fresh visits walks =>
      rw [exchanges_append, uncancelled_append] at uncancelled
      exact walks.kind_ne_cancelled uncancelled.2 rfl

/-- The walk of a prepared run stops at its first trigger; or what holds after the trigger and is
preserved by every turn holds when the walk halts. -/
theorem Traverses.exists_halt {ticket : Ticket} {P : List Event → Walk → Prop} {u : List Event}
    {r : Execution × Option Stop} {n : Node} {ns : List Node} (prepared : Prepared w e)
    (first : w.triggers = n :: ns) (h : Traverses w ticket e u r)
    (begins : ∀ {t l v}, Visits w e n e.triggerData t (.ok (l, v)) →
      P (.entered n e.triggerData :: plain t) ⟨l, [Frame.enter w n e.triggerData v]⟩)
    (preserved : ∀ {u v s s'}, P u s → Turn w ticket s v s' → P (u ++ v) s') :
    (∃ t l stop, Visits w e n e.triggerData t (.error (l, stop)) ∧
      u = .entered n e.triggerData :: plain t ∧ r = (l, some stop)) ∨
    ∃ u' s v, P u' s ∧ Halt w ticket s v r ∧ u = u' ++ v := by
  cases h with
  | triggerless none => cases first.symm.trans none
  | succeeded _ succeeded =>
      rw [Execution.successfulStep?, prepared.unstarted] at succeeded
      cases succeeded
  | stopped first' fresh visits =>
      cases first.symm.trans first'
      exact .inl ⟨_, _, _, visits, rfl, rfl⟩
  | walked first' fresh visits walks =>
      cases first.symm.trans first'
      exact .inr (walks.exists_halt preserved (begins visits))

theorem traverses_of_ends {ticket : Ticket} {r : Execution × Option Stop}
    (h : (traverse w alone ticket e).Ends t r) :
    ∃ u, Traverses w ticket e u r ∧ exchanges u = t := by
  unfold traverse at h
  split at h
  · next none =>
    obtain ⟨rfl, rfl⟩ := ends_pure.mp h
    exact ⟨_, .triggerless none, rfl⟩
  next n ns first =>
  split at h
  · next succeeded =>
    obtain ⟨rfl, rfl⟩ := ends_pure.mp h
    exact ⟨_, .succeeded first succeeded, rfl⟩
  next fresh =>
  have fresh := Bool.eq_false_iff.mpr fresh
  obtain ⟨l, stop, visits, rfl⟩ | ⟨l, v, _, _, visits, h₁, rfl⟩ := ends_visiting h
  · exact ⟨_, .stopped first fresh visits, exchanges_begun ..⟩
  · obtain ⟨u, walks, rfl⟩ := walks_of_ends h₁
    exact ⟨_, .walked first fresh visits walks, by simp⟩

/-- How a run concludes after its walk: an aborted walk is not stored, the end of any other is, and
a completion is counted too. The run leaves the registry in any case. -/
inductive Concludes (w : Workflow) (ticket : Ticket) :
    Execution × Option Stop → List Exchange → Except Failure Execution → Prop
  | aborted {l : Execution} {stop : Option Stop} {f : Failure}
      (taken : concluded l stop = .error f) :
      Concludes w ticket (l, stop) [⟨.release l.id ticket, ()⟩] (.error f)
  | unsaved {l ended : Execution} {stop : Option Stop} (taken : concluded l stop = .ok ended)
      (finish : Moment) (f : Failure) :
      Concludes w ticket (l, stop)
        [⟨.now, finish⟩, saving { ended with completedAt := some finish } (.error f),
          ⟨.release l.id ticket, ()⟩]
        (.error (Engine.unsaved ended f))
  | uncounted {l ended : Execution} {stop : Option Stop} (taken : concluded l stop = .ok ended)
      (completed : ended.status = .completed) (finish : Moment) (f : Failure) :
      Concludes w ticket (l, stop)
        [⟨.now, finish⟩, saving { ended with completedAt := some finish } (.ok ()),
          ⟨.store (.incrementRunCount w.id w.tenant finish), .error f⟩,
          ⟨.release l.id ticket, ()⟩]
        (.error (.engine (.persistence "update run statistics" f.message w.id)))
  | counted {l ended : Execution} {stop : Option Stop} (taken : concluded l stop = .ok ended)
      (completed : ended.status = .completed) (finish : Moment) (reply : Except Failure Unit) :
      Concludes w ticket (l, stop)
        [⟨.now, finish⟩, saving { ended with completedAt := some finish } (.ok ()),
          ⟨.store (.incrementRunCount w.id w.tenant finish), .ok ()⟩,
          ⟨.release l.id ticket, ()⟩,
          telling l.id "status" [("status", .str ended.status.name),
            ("error", Value.ofText? ended.error)] reply]
        (.ok { ended with completedAt := some finish })
  | closed {l ended : Execution} {stop : Option Stop} (taken : concluded l stop = .ok ended)
      (incomplete : ended.status ≠ .completed) (finish : Moment) (reply : Except Failure Unit) :
      Concludes w ticket (l, stop)
        [⟨.now, finish⟩, saving { ended with completedAt := some finish } (.ok ()),
          ⟨.release l.id ticket, ()⟩,
          telling l.id "status" [("status", .str ended.status.name),
            ("error", Value.ofText? ended.error)] reply]
        (.ok { ended with completedAt := some finish })

theorem Concludes.invocations {ticket : Ticket} {s : Execution × Option Stop}
    {r : Except Failure Execution} (h : Concludes w ticket s t r) : invocations t = [] := by
  cases h <;> rfl

theorem Concludes.of_stored {ticket : Ticket} {stop : Option Stop} {r : Except Failure Execution}
    (h : Concludes w ticket (l, stop) t r) (stored : Stored t) :
    (∃ f, concluded l stop = .error f ∧ r = .error f) ∨
      ∃ ended finish, concluded l stop = .ok ended ∧
        r = .ok { ended with completedAt := some finish } := by
  cases h with
  | aborted taken => exact .inl ⟨_, taken, rfl⟩
  | unsaved => exact absurd stored (not_stored (.tail _ (.head _)))
  | uncounted _ _ _ f => exact absurd (.tail _ (.tail _ (.head _))) (stored _ f)
  | counted taken | closed taken => exact .inr ⟨_, _, taken, rfl⟩

theorem Concludes.mem_savings {ticket : Ticket} {s : Execution × Option Stop} {d : Execution}
    (h : Concludes w ticket s t (.ok d)) : d ∈ savings t := by
  cases h with
  | counted | closed => exact List.mem_cons_self

theorem concluded_id {stop : Option Stop} {ended : Execution} (h : concluded l stop = .ok ended) :
    ended.id = l.id := by
  unfold concluded at h
  split at h <;> cases h <;> rfl

theorem concluded_isFinished {stop : Option Stop} {ended : Execution}
    (h : concluded l stop = .ok ended) : ended.isFinished = true := by
  unfold concluded at h
  split at h
  · cases h
  · cases h
    rw [Execution.isFinished]
    dsimp only
    split <;> rfl
  · cases h
    rfl

theorem concluded_completed {stop : Option Stop} {ended : Execution}
    (h : concluded l stop = .ok ended) (completed : ended.status = .completed) :
    stop = none ∧ ended.steps = l.steps := by
  unfold concluded at h
  split at h
  · cases h
  · cases h
    dsimp only at completed
    split at completed <;> cases completed
  · cases h
    exact ⟨rfl, rfl⟩

theorem ends_close {e : Execution} {finish : Moment} {r : Except Failure Execution}
    (h : (close w alone e finish).Ends t r) :
    (∃ f, t = [saving e (.error f)] ∧ r = .error (unsaved e f)) ∨
      (e.status ≠ .completed ∧ t = [saving e (.ok ())] ∧ r = .ok e) ∨
        e.status = .completed ∧ ∃ reply : Except Failure Unit,
          t = [saving e (.ok ()),
            ⟨.store (.incrementRunCount w.id w.tenant (e.completedAt.getD finish)), reply⟩] ∧
          r = match reply with
            | .ok _ => .ok e
            | .error f =>
              .error (.engine (.persistence "update run statistics" f.message w.id)) := by
  obtain ⟨_, _, _, hs, h₁, rfl⟩ := ends_andThen.mp h
  obtain ⟨reply, rfl, rfl⟩ := ends_save.mp hs
  cases reply with
  | error f =>
      obtain ⟨rfl, rfl⟩ := ends_pure.mp h₁
      exact .inl ⟨f, rfl, rfl⟩
  | ok _ =>
      obtain ⟨_, _, _, hl, h₂, rfl⟩ := ends_andThen.mp h₁
      obtain ⟨rfl, rfl⟩ := ends_alone.mp hl
      split at h₂
      · next completed =>
        obtain ⟨(reply : Except Failure Unit), _, h₃, rfl⟩ := ends_ask_andThen.mp h₂
        refine .inr (.inr ⟨completed, reply, ?_⟩)
        cases reply with
        | ok _ | error _ =>
            obtain ⟨rfl, rfl⟩ := ends_pure.mp h₃
            exact ⟨rfl, rfl⟩
      · next incomplete =>
        obtain ⟨rfl, rfl⟩ := ends_pure.mp h₂
        exact .inr (.inl ⟨incomplete, rfl, rfl⟩)

theorem ends_farewell {e : Execution} {ticket : Ticket} {r : Except Failure Execution}
    (h : (do
      release e.id ticket
      notify e.id "status" [("status", .str e.status.name), ("error", Value.ofText? e.error)]
      return .ok e : Work (Except Failure Execution)).Ends t r) :
    ∃ reply, t = [⟨.release e.id ticket, ()⟩, telling e.id "status"
      [("status", .str e.status.name), ("error", Value.ofText? e.error)] reply] ∧ r = .ok e := by
  obtain ⟨_, _, h₁, rfl⟩ := ends_ask_andThen.mp h
  obtain ⟨_, _, _, hn, h₂, rfl⟩ := ends_andThen.mp h₁
  obtain ⟨reply, rfl⟩ := ends_notify.mp hn
  obtain ⟨rfl, rfl⟩ := ends_pure.mp h₂
  exact ⟨reply, rfl, rfl⟩

/-- How a run goes: what happens in its walk, how that was left, the exchange of the whole run, and
what the run gives. -/
inductive Course (w : Workflow) (e : Execution) :
    List Event → Execution × Option Stop → List Exchange → Except Failure Execution → Prop
  | intro {ticket : Ticket} {u : List Event} {s : Execution × Option Stop} {t : List Exchange}
      {r : Except Failure Execution} (traverses : Traverses w ticket e u s)
      (concludes : Concludes w ticket s t r) :
      Course w e u s (⟨.attach e.id, ticket⟩ :: exchanges u ++ t) r

/-- A record that is saved as completed is the one at the end of a walk that nothing stopped. -/
theorem Course.completed {u : List Event} {s : Execution × Option Stop}
    {r : Except Failure Execution} (h : Course w e u s t r) (running : e.status = .running)
    (hl : l ∈ savings t) (completed : l.status = .completed) :
    s.2 = none ∧ l.steps = s.1.steps := by
  obtain @⟨ticket, u, ⟨d, stop⟩, t, _, traverses, concludes⟩ := h
  rw [savings_append] at hl
  obtain hl | hl := List.mem_append.mp hl
  · -- whatever is saved before the walk is over is still running
    have status := (traverses.of_mem_savings hl).status
    rw [completed, running] at status
    cases status
  · have conclusion {ended : Execution} {finish : Moment} (taken : concluded d stop = .ok ended)
        (hl : l = { ended with completedAt := some finish }) : stop = none ∧ l.steps = d.steps := by
      subst hl
      have untouched := concluded_completed taken completed
      exact untouched
    cases concludes with
    | aborted taken => cases hl
    | unsaved taken | uncounted taken | counted taken | closed taken =>
        exact conclusion taken (List.mem_singleton.mp hl)

theorem course_of_ends {r : Except Failure Execution} (h : (run w alone e).Ends t r) :
    ∃ u s, Course w e u s t r := by
  obtain ⟨(ticket : Ticket), _, h₁, rfl⟩ := ends_ask_andThen.mp h
  obtain ⟨_, _, _, hl, h₂, rfl⟩ := ends_andThen.mp h₁
  obtain ⟨rfl, rfl⟩ := ends_alone.mp hl
  obtain ⟨⟨l, stop⟩, _, t, ht, h₃, rfl⟩ := ends_andThen.mp h₂
  obtain ⟨u, hu, rfl⟩ := traverses_of_ends ht
  suffices hc : Concludes w ticket (l, stop) t r from ⟨u, _, .intro hu hc⟩
  dsimp only at h₃
  split at h₃
  · next taken =>
    obtain ⟨_, _, h₄, rfl⟩ := ends_ask_andThen.mp h₃
    obtain ⟨rfl, rfl⟩ := ends_pure.mp h₄
    exact .aborted taken
  · next ended taken =>
    have hid := concluded_id taken
    obtain ⟨(finish : Moment), _, h₄, rfl⟩ := ends_ask_andThen.mp h₃
    obtain ⟨_, _, _, hc, h₅, rfl⟩ := ends_andThen.mp h₄
    obtain ⟨f, rfl, rfl⟩ | ⟨incomplete, rfl, rfl⟩ | ⟨completed, reply, rfl, rfl⟩ := ends_close hc
    · obtain ⟨_, _, h₆, rfl⟩ := ends_ask_andThen.mp h₅
      obtain ⟨rfl, rfl⟩ := ends_pure.mp h₆
      exact .unsaved taken finish f
    · obtain ⟨reply, rfl, rfl⟩ := ends_farewell h₅
      have closed : Concludes w ticket (l, stop) _ _ := .closed taken incomplete finish reply
      rw [← hid] at closed
      exact closed
    · cases reply with
      | error f =>
          obtain ⟨_, _, h₆, rfl⟩ := ends_ask_andThen.mp h₅
          obtain ⟨rfl, rfl⟩ := ends_pure.mp h₆
          exact .uncounted taken completed finish f
      | ok _ =>
          obtain ⟨reply, rfl, rfl⟩ := ends_farewell h₅
          have counted : Concludes w ticket (l, stop) _ _ :=
            .counted taken completed finish reply
          rw [← hid] at counted
          exact counted

end Engine
end TriggerFlow
