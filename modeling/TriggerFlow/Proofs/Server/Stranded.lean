import TriggerFlow.Proofs.Server.Agreement

/-!
Records that are left running. A running record has a live run, a task that goes on and a ticket, or
a condition raised in its run: then the run leaves the registry without storing an end, and nobody
runs the record any more.
-/

namespace TriggerFlow.Server

open Engine

namespace State

variable {s : State} {id : String} {e : Execution}

/-- A record has a live run: it is registered, and a task that is not done works on it. -/
structure Live (s : State) (id : String) : Prop where
  registered : ∃ k, s.world.ticket? id = some k ∧ s.world.runs.isFinished k = false
  working : ∃ t ∈ s.tasks, t.phase.works? = some id ∧ t.next?.isSome = true

/-- Where no task is between storing a new record and registering it, every running record has a
live run, or its run was taken down by an evaluation that raised. -/
theorem live_unless_raised (reachable : s.Reachable)
    (registered : ∀ t ∈ s.tasks, t.registers = false) (stored : s.world.record? id = some e)
    (running : e.isFinished = false) :
    s.Live id ∨ ∃ t ∈ s.tasks, ∃ w d u, u <:+: t.past ∧ Raised w d u ∧ d.id = id := by
  have sound := reachable.sound
  obtain ⟨owner, account⟩ := sound.account
  obtain ⟨p, hp, works⟩ := account.worked stored running
  have holds := account.holds p hp
  obtain ⟨t, ht, phase⟩ := List.mem_map.mp hp
  have working (live : p.isLive = true) :
      ∃ t ∈ s.tasks, t.phase.works? = some id ∧ t.next?.isSome = true := by
    obtain ⟨c, next, -⟩ := (sound.tasks t ht).exists_next (phase.symm ▸ live)
    exact ⟨t, ht, phase.symm ▸ works, next ▸ rfl⟩
  cases p with
  | saved v d =>
      have registers := (sound.tasks t ht).registers (by rw [phase]; rfl)
      cases (registered t ht).symm.trans registers
  | ready v d =>
      obtain rfl : d.id = id := Option.some.inj works
      obtain ⟨-, -, k, held⟩ := holds
      exact .inl ⟨⟨k, held, (account.books.ticket held).2.2⟩, working rfl⟩
  | running v d k u =>
      obtain rfl : d.id = id := Option.some.inj works
      have held := holds.2.2
      exact .inl ⟨⟨k, held, (account.books.ticket held).2.2⟩, working rfl⟩
  | aborted w d u => exact .inr (sound.raised ⟨_, hp, works⟩)
  | _ => cases works

end State

def sampleBeginning : List Move :=
  .submit (.createWorkflow "tenant" sampleDraft none) :: turns 0 0 1 ++
  .submit (.execute "tenant" "0" ⟨.null, true⟩) :: turns 1 1 7 ++ turns 2 8 4

theorem sample_live : ∃ (s : State) (e : Execution), s.Reachable ∧
    (∀ t ∈ s.tasks, t.registers = false) ∧ s.world.record? "2" = some e ∧ e.isFinished = false ∧
    (s.Live "2" ∨ ∃ t ∈ s.tasks, ∃ w d u, u <:+: t.past ∧ Raised w d u ∧ d.id = "2") := by
  obtain ⟨s, played, shown⟩ := Option.map_eq_some_iff.mp
    (show (State.empty.play sampleBeginning).map (fun s => (s.tasks.all (!·.registers),
      (s.world.record? "2").map (·.isFinished))) = some (true, some false) by decide +kernel)
  obtain ⟨registered, recorded⟩ := Prod.mk.inj shown
  obtain ⟨e, stored, running⟩ := Option.map_eq_some_iff.mp recorded
  have reachable : s.Reachable := ⟨sampleBeginning, played⟩
  have registered : ∀ t ∈ s.tasks, t.registers = false := by simpa using registered
  exact ⟨s, e, reachable, registered, stored, running,
    State.live_unless_raised reachable registered stored running⟩

def comparingDraft : Draft :=
  { sampleDraft with
    connections := [⟨"a", "start", "log", [⟨"c", "n", .greaterThan, "5"⟩], .and⟩] }

def strandingMoves : List Move :=
  .submit (.createWorkflow "tenant" comparingDraft none) :: turns 0 0 1 ++
  .submit (.execute "tenant" "0" ⟨.obj [("n", .int (.ofNat (Nat.pow 10 400)))], false⟩) ::
    turns 1 1 16

/-- No task is left and nothing is registered, and yet the record is running. -/
theorem record_stranded : ∃ (s : State) (e : Execution), s.Reachable ∧
    s.tasks.all (·.next?.isNone) = true ∧ s.world.runs.active = [] ∧
    s.world.record? "2" = some e ∧ e.status = .running := by
  obtain ⟨s, played, shown⟩ := Option.map_eq_some_iff.mp
    (show (State.empty.play strandingMoves).map (fun s => (s.tasks.all (·.next?.isNone),
      s.world.runs.active, (s.world.record? "2").map (·.status))) =
        some (true, [], some .running) by decide +kernel)
  simp only [Prod.mk.injEq] at shown
  obtain ⟨done, unregistered, recorded⟩ := shown
  obtain ⟨e, stored, running⟩ := Option.map_eq_some_iff.mp recorded
  exact ⟨s, e, ⟨strandingMoves, played⟩, done, unregistered, stored, running⟩

end TriggerFlow.Server
