import TriggerFlow.Proofs.Run.Calm
import TriggerFlow.Proofs.Server.Reach

/-!
Agreement on how executions end. What a run returned, what a cancellation returned and the record
that made a cancellation be refused are what the store shows from then on; and a workflow counts
exactly its completed records, as long as no run stands between storing its end and counting it.
-/

namespace TriggerFlow.Server

open Engine
open Store (Memory)
open Store.Memory (completions)

namespace State

variable {s s' : State} {e d : Execution} {id : String} {j : Job}

def Gives (s : State) (j : Job) (a : Except Failure j.Given) : Prop :=
  ∃ past waiting, (⟨j, past, .done a, waiting⟩ : Task) ∈ s.tasks

/-- A finished record that the store shows, now and in every state that the service can come to. -/
structure Final (s : State) (d : Execution) : Prop where
  finished : d.isFinished = true
  shown : ∀ s', s.Leads s' → s'.world.record? d.id = some d

/-- No task has a run in its past that was taken down by an evaluation. -/
def Unraised (s : State) : Prop :=
  ∀ t ∈ s.tasks, ∀ w e u, u <:+: t.past → ¬ Raised w e u

/-- A run that has stored the completion of a record counts it next. -/
def Counting (s : State) : Prop :=
  ∃ t ∈ s.tasks, ∃ id tenant finish, t.next? = some (.store (.incrementRunCount id tenant finish))

theorem record?_perform {w : World} {o : Chance} {c : Call} (stored : w.record? id = some e)
    (finished : e.isFinished = true) : (w.perform o c).2.record? id = some e := by
  cases c with
  | store c =>
      unfold World.perform
      dsimp only
      split
      · exact stored
      · exact Memory.get?_reply_of_finished stored finished
  | _ => exact stored

theorem Leads.record? (h : s.Leads s') (stored : s.world.record? id = some e)
    (finished : e.isFinished = true) : s'.world.record? id = some e := by
  refine h.preserves (P := fun s => s.world.record? id = some e) stored ?_
  intro s m s' allowed moved stored
  obtain ⟨op, rfl⟩ | ⟨t, t', others, new, o, step⟩ := step_of_move allowed moved
  · exact stored
  · have goes := step.goes
    generalize s'.world = w' at goes ⊢
    cases goes with
    | waits => exact stored
    | answered => exact record?_perform stored finished

theorem Sound.final (sound : s.Sound) (stored : s.world.record? id = some d)
    (finished : d.isFinished = true) : d.id = id ∧ s.Final d := by
  obtain ⟨owner, account⟩ := sound.account
  obtain rfl := (account.books.stored stored).1
  exact ⟨rfl, finished, fun s' leads => leads.record? stored finished⟩

theorem Sound.settled (sound : s.Sound) {a : Except Failure j.Given} (h : s.Gives j a) :
    ∃ t ∈ s.tasks, j.Settled a t.reached := by
  obtain ⟨past, waiting, done⟩ := h
  exact ⟨_, done, (sound.tasks _ done).settled⟩

theorem Sound.holds (sound : s.Sound) {t : Task} (ht : t ∈ s.tasks) {p : Phase}
    (reached : t.reached = p) (awake : ∀ id tenant, p ≠ .asked id tenant) :
    ∃ owner, p.Holds owner s.world (Lost (s.tasks.map Task.phase)) := by
  obtain ⟨owner, account⟩ := sound.account
  refine ⟨owner, ?_⟩
  have holds := account.holds _ (List.mem_map_of_mem ht)
  rw [Task.phase_eq fun id tenant => reached ▸ awake id tenant, reached] at holds
  exact holds

theorem Sound.released (sound : s.Sound) {t : Task} (ht : t ∈ s.tasks)
    (reached : t.reached = .released d) : s.Final d := by
  obtain ⟨_, finished, stored⟩ := sound.holds ht reached nofun
  exact (sound.final stored finished).2

/-- A record that was left behind belongs to a run that an evaluation took down. -/
theorem Sound.raised (sound : s.Sound) (lost : Lost (s.tasks.map Task.phase) id) :
    ∃ t ∈ s.tasks, ∃ w e u, u <:+: t.past ∧ Raised w e u ∧ e.id = id := by
  obtain ⟨p, hp, lost⟩ := lost
  obtain ⟨t, ht, phase⟩ := List.mem_map.mp hp
  cases p with
  | aborted w e u =>
      have reached : t.reached = .aborted w e u := by
        rw [← phase, Task.phase_eq]
        intro id tenant asked
        rw [Task.phase_asked asked] at phase
        split at phase <;> cases phase
      have traced := (sound.tasks t ht).traced
      rw [reached] at traced
      exact ⟨t, ht, w, e, u, traced.1, traced.2, Option.some.inj lost⟩
  | _ => cases lost

theorem Sound.unowed (sound : s.Sound) (idle : ¬ s.Counting) (i : String) :
    (s.tasks.map Task.phase).countP (Phase.owes i) = 0 := by
  rw [List.countP_eq_zero]
  intro p hp owes
  obtain ⟨t, ht, phase⟩ := List.mem_map.mp hp
  cases p with
  | stored d k =>
      have live : t.phase.isLive = true := by rw [phase]; rfl
      obtain ⟨c, next, permits⟩ := (sound.tasks t ht).exists_next live
      rw [phase] at permits
      cases permits with
      | mild early => cases early
      | count => exact idle ⟨t, ht, _, _, _, next⟩
      | release k incomplete => simp [Phase.owes, Memory.isCompletionOf, incomplete] at owes
  | _ => cases owes

end State

/-- What the store and those who use the service agree on. -/
structure Agreement (s : State) : Prop where
  run : ∀ {w e d}, s.Gives (.run w e) (.ok d) → s.Final d
  execute : ∀ {tenant id request} {d : Execution}, request.background = false →
    s.Gives (.operation (.execute tenant id request)) (.ok d) → s.Final d
  cancel : ∀ {tenant id} {d : Execution},
    s.Gives (.operation (.cancelExecution tenant id)) (.ok d) →
      d.id = id ∧ d.status = .cancelled ∧ s.Final d
  refusal : s.Unraised → ∀ {tenant id f},
    s.Gives (.operation (.cancelExecution tenant id)) (.error f) → Refuses f →
      ∃ d : Execution, d.id = id ∧ s.Final d
  count : ¬ s.Counting → ∀ {i v}, s.world.memory.workflows.get? i = some v →
    v.runCount = completions s.world.memory i

/-- However the operations of a service come in between each other, all agree on how executions
end. -/
theorem reachable_agreement {s : State} (reachable : s.Reachable) : Agreement s where
  run := by
    intro w e d gives
    obtain ⟨t, ht, reached⟩ := reachable.sound.settled gives
    exact reachable.sound.released ht reached
  execute := by
    intro tenant id request d inline gives
    obtain ⟨t, ht, settled⟩ := reachable.sound.settled gives
    exact reachable.sound.released ht (settled.2 inline)
  cancel := by
    intro tenant id d gives
    obtain ⟨t, ht, reached, cancelled⟩ := reachable.sound.settled gives
    obtain ⟨_, finished, stored⟩ := reachable.sound.holds ht reached nofun
    obtain ⟨same, final⟩ := reachable.sound.final stored finished
    exact ⟨same, cancelled, final⟩
  refusal := by
    intro unraised tenant id f gives refuses
    obtain ⟨t, ht, -, settled⟩ := reachable.sound.settled gives
    obtain ⟨e, seen⟩ | refused | stranded := settled refuses
    · obtain ⟨_, finished, stored⟩ := reachable.sound.holds ht seen nofun
      exact ⟨e, reachable.sound.final stored finished⟩
    · obtain ⟨_, e, stored, finished⟩ := reachable.sound.holds ht refused nofun
      exact ⟨e, reachable.sound.final stored finished⟩
    · obtain ⟨_, lost⟩ := reachable.sound.holds ht stranded nofun
      obtain ⟨t, ht, w, e, u, part, raised, -⟩ := reachable.sound.raised lost
      exact absurd raised (unraised t ht w e u part)
  count := by
    intro idle i v found
    obtain ⟨owner, account⟩ := reachable.sound.account
    have counts := account.counts found
    rw [reachable.sound.unowed idle] at counts
    omega

def sampleDraft : Draft :=
  { sample.toGraph with
    name := sample.name
    description := none
    status := some .active
    tags := [] }

def turns (i first n : Nat) : List Move :=
  (List.range n).map fun k => .go i (.calm (.utc 0) (toString (first + k)))

/-- A run in the background that is cancelled in its first node; then a run to its end, which cannot
be cancelled any more. -/
def sampleMoves : List Move :=
  .submit (.createWorkflow "tenant" sampleDraft none) :: turns 0 0 1 ++
  .submit (.execute "tenant" "0" ⟨.null, true⟩) :: turns 1 1 7 ++ turns 2 8 8 ++
  .submit (.cancelExecution "tenant" "2") :: turns 3 16 3 ++ turns 2 19 6 ++ turns 3 25 2 ++
  .submit (.execute "tenant" "0" ⟨.null, false⟩) :: turns 4 27 45 ++
  .submit (.cancelExecution "tenant" "28") :: turns 5 72 1

theorem sample_agreement : ∃ s : State, s.Reachable ∧ Agreement s ∧
    s.tasks.all (·.next?.isNone) = true ∧
    s.world.memory.executions.values.map (·.status) = [.cancelled, .completed] ∧
    s.world.memory.workflows.values.map (·.runCount) = [1] := by
  obtain ⟨s, played, shown⟩ := Option.map_eq_some_iff.mp
    (show (State.empty.play sampleMoves).map (fun s => (s.tasks.all (·.next?.isNone),
      s.world.memory.executions.values.map (·.status),
      s.world.memory.workflows.values.map (·.runCount))) =
        some (true, [.cancelled, .completed], [1]) by decide +kernel)
  simp only [Prod.mk.injEq] at shown
  exact ⟨s, ⟨sampleMoves, played⟩, reachable_agreement ⟨sampleMoves, played⟩, shown⟩

end TriggerFlow.Server
