import TriggerFlow.Proofs.Server.Upkeep

/-!
The states that a service can come to. In all of them every task keeps to the protocol and the
account of the records is in order.
-/

namespace TriggerFlow.Server

open Engine

variable {w w' : World} {o : Chance} {t t' : Task} {ts new : List Task} {id tenant : String}

namespace Task

theorem phase_eq (h : ∀ id tenant, t.reached ≠ .asked id tenant) : t.phase = t.reached := by
  unfold phase
  split
  · next asked _ => exact absurd asked (h _ _)
  · rfl

theorem phase_asked (asked : t.reached = .asked id tenant) :
    t.phase = match t.waiting with
      | some (.finished k) => .waiting id tenant k
      | _ => .asked id tenant := by
  unfold phase
  rw [asked]
  match t.waiting with
  | none | some (.background _) | some (.finished _) => rfl

theorem reached_eq (h : t.phase.isLive = true) : t.reached = t.phase := by
  refine (phase_eq fun id tenant asked => ?_).symm
  rw [phase_asked asked] at h
  split at h <;> cases h

/-- Where a record is at work, the task is not done. -/
theorem Sound.exists_next (sound : t.Sound) (live : t.phase.isLive = true) :
    ∃ c, t.next? = some c ∧ Permits t.phase c := by
  have same := reached_eq live
  rw [← same] at live ⊢
  obtain ⟨job, past, rest, waiting⟩ := t
  cases rest with
  | done a => cases live.symm.trans sound.settled.isLive
  | call c next =>
      refine ⟨c, rfl, ?_⟩
      exact sound.permits (kept_perform (w := .empty) (o := .calm (.utc 0) "") rfl c)

theorem Sound.registers (sound : t.Sound) (h : t.phase.isNew = true) : t.registers = true := by
  have live : t.phase.isLive = true := by
    cases phase : t.phase <;> rw [phase] at h <;> first | rfl | cases h
  obtain ⟨c, next, permits⟩ := sound.exists_next live
  cases phase : t.phase with
  | saved v e =>
      rw [phase] at permits
      cases permits with
      | mild early => cases early
      | register => rw [Task.registers, next]
  | _ =>
      rw [phase] at h
      cases h

end Task

/-- A state in which every task keeps to the protocol and the account is in order. -/
structure State.Sound (s : State) : Prop where
  tasks : ∀ t ∈ s.tasks, t.Sound
  account : ∃ owner, Ledger owner s.drawn s.world (s.tasks.map Task.phase)

namespace State

variable {s s' : State}

theorem sound_empty : empty.Sound where
  tasks := List.forall_mem_nil _
  account := ⟨fun _ => none,
    { books :=
        { workflow := fun found => by cases found
          owned := nofun
          record := fun stored => by cases stored
          ticket := fun held => by cases held
          distinct := fun held => by cases held }
      claims := List.nodup_nil
      claimed := List.forall_mem_nil _
      holds := List.forall_mem_nil _
      worked := fun stored => by cases stored
      counts := fun found => by cases found }⟩

end State

namespace Goes

theorem sound (goes : Goes w o t t' w' new) (working : o.outage = none) (sound : t.Sound) :
    t'.Sound ∧ ∀ t ∈ new, t.Sound := by
  cases goes with
  | @waits job past c next wait long =>
      refine ⟨⟨sound.fit, sound.continues, sound.kept, sound.traced, ?_⟩, List.forall_mem_nil _⟩
      rintro wait ⟨⟩
      exact ⟨w, c, rfl, long⟩
  | @answered job past c next waiting ready =>
      have kept := kept_perform (w := w) working c
      refine ⟨sound.answered kept, ?_⟩
      have permits := sound.permits kept
      cases c with
      | startInBackground v e =>
          have launched : Launched v e := by
            generalize Task.reached _ = p at permits
            cases permits with
            | mild _ mild => exact mild.elim
            | hand launched => exact launched
            | work _ _ work => cases work
          exact List.forall_mem_singleton.mpr (Task.sound_start launched)
      | _ => exact List.forall_mem_nil _

theorem opened_eq (c : Call) : (Task.started c).map Task.phase = opened c := by
  cases c <;> rfl

theorem awaits {p : Phase} {c : Call} (asked : p = .asked id tenant) (permits : Permits p c) :
    c = .awaitFinished id := by
  subst asked
  cases permits with
  | mild early => cases early
  | await => rfl

end Goes

section Account

variable {owner : String → Option String} {drawn : List String} {others : List Phase} {job : Job}
  {past : List Exchange} {c : Call} {next : Reply c → Work (Except Failure job.Given)}
  {waiting : Option Wait}

theorem Task.phase_answered {x : Exchange} {rest : Work (Except Failure job.Given)} :
    Task.phase ⟨job, past ++ [x], rest, none⟩ =
      (Task.reached ⟨job, past, .call c next, waiting⟩).after x := by
  unfold phase reached
  rw [List.foldl_append]
  split
  · next waits => cases waits
  · rfl

theorem account_waits {wait : Wait} (sound : Task.Sound ⟨job, past, .call c next, none⟩)
    (fresh : o.id ∉ drawn) (long : w.wait? c = some wait)
    (h : Ledger owner drawn w (Task.phase ⟨job, past, .call c next, none⟩ :: others)) :
    Ledger owner (o.id :: drawn) w
      (Task.phase ⟨job, past, .call c next, some wait⟩ :: others) := by
  have permits := sound.permits (kept_perform (w := w) (o := .calm (.utc 0) "") rfl c)
  by_cases asked : ∃ id tenant, Task.reached ⟨job, past, .call c next, none⟩ = .asked id tenant
  · obtain ⟨id, tenant, asked⟩ := asked
    obtain rfl := Goes.awaits asked permits
    obtain ⟨k, held, rfl⟩ := Option.map_eq_some_iff.mp long
    rw [Task.phase_asked asked] at h
    rw [Task.phase_asked (t := ⟨job, past, .call _ next, some (.finished k)⟩) asked]
    obtain ⟨known, -⟩ := h.holds _ List.mem_cons_self
    exact h.look fresh nofun rfl nofun (fun _ => rfl) ⟨known, .inr held⟩
  · have away (id tenant : String) :
        Task.reached ⟨job, past, .call c next, none⟩ ≠ .asked id tenant :=
      fun here => asked ⟨id, tenant, here⟩
    rw [Task.phase_eq away] at h
    rw [Task.phase_eq (t := ⟨job, past, .call c next, some wait⟩) away]
    exact h.idle fresh

theorem account_answered (sound : Task.Sound ⟨job, past, .call c next, waiting⟩)
    (working : o.outage = none) (fresh : o.id ∉ drawn) (away : ∀ q ∈ others, q.isNew = false)
    (ready : w.Ready c waiting)
    (h : Ledger owner drawn w (Task.phase ⟨job, past, .call c next, waiting⟩ :: others)) :
    ∃ owner', Ledger owner' (o.id :: drawn) (w.perform o c).2
      ((Task.reached ⟨job, past, .call c next, waiting⟩).after ⟨c, (w.perform o c).1⟩ ::
        (opened c ++ others)) := by
  have permits := sound.permits (kept_perform (w := w) working c)
  by_cases asked : ∃ id tenant, Task.reached ⟨job, past, .call c next, waiting⟩ = .asked id tenant
  · obtain ⟨id, tenant, asked⟩ := asked
    obtain rfl := Goes.awaits asked permits
    rw [Task.phase_asked asked] at h
    rw [asked]
    refine ⟨owner, h.awaited fresh ?_⟩
    cases waiting with
    | none => exact .inl ⟨rfl, Option.map_eq_none_iff.mp ready⟩
    | some wait =>
        cases wait with
        | finished k => exact .inr ⟨k, rfl, ready⟩
        | background ids =>
            -- nobody waits for a run in this way
            obtain ⟨w₀, c, next, long⟩ := sound.waits rfl
            cases next
            obtain ⟨k, -, other⟩ := Option.map_eq_some_iff.mp long
            cases other
  · have awake (id tenant : String) :
        Task.reached ⟨job, past, .call c next, waiting⟩ ≠ .asked id tenant :=
      fun here => asked ⟨id, tenant, here⟩
    rw [Task.phase_eq awake] at h
    exact h.answered permits working fresh away awake

theorem Goes.account (goes : Goes w o t t' w' new) (working : o.outage = none) (sound : t.Sound)
    (fresh : o.id ∉ drawn) (away : ∀ q ∈ others, q.isNew = false)
    (h : Ledger owner drawn w (t.phase :: others)) :
    ∃ owner', Ledger owner' (o.id :: drawn) w' (t'.phase :: (new.map Task.phase ++ others)) := by
  cases goes with
  | waits long => exact ⟨owner, account_waits sound fresh long h⟩
  | answered ready =>
      rw [opened_eq, Task.phase_answered]
      exact account_answered sound working fresh away ready h

end Account

namespace State

variable {s s' : State} {m : Move}

theorem Sound.move (h : s.Sound) (allowed : s.allows m = true) (moved : s.move m = some s') :
    s'.Sound := by
  obtain ⟨owner, account⟩ := h.account
  obtain ⟨op, rfl⟩ | ⟨t, t', others, new, o, step⟩ := step_of_move allowed moved
  · constructor
    · rw [List.forall_mem_append, List.forall_mem_singleton]
      exact ⟨h.tasks, Task.sound_start trivial⟩
    · refine ⟨owner, ?_⟩
      have joined : Ledger owner s.drawn s.world (.idle :: s.tasks.map Task.phase) :=
        account.joined rfl rfl (fun _ => rfl) trivial
      rw [List.map_append]
      exact joined.perm (List.perm_append_singleton _ _).symm
  · have tasks : ∀ q ∈ t :: others, q.Sound := fun q hq => h.tasks q (step.before.mem_iff.mpr hq)
    rw [List.forall_mem_cons] at tasks
    have goes := step.goes
    obtain ⟨sound', started⟩ := goes.sound step.working tasks.1
    constructor
    · intro q hq
      have hq := step.after.mem_iff.mp hq
      rw [List.mem_cons, List.mem_append] at hq
      obtain rfl | hq | hq := hq
      · exact sound'
      · exact started q hq
      · exact tasks.2 q hq
    · have away : ∀ q ∈ others.map Task.phase, q.isNew = false := by
        rw [List.forall_mem_map]
        intro q hq
        cases fresh : q.phase.isNew with
        | false => rfl
        | true => cases (step.alone q hq).symm.trans ((tasks.2 q hq).registers fresh)
      obtain ⟨owner', kept⟩ := goes.account step.working tasks.1 step.fresh away
        (account.perm (step.before.map Task.phase))
      refine ⟨owner', ?_⟩
      rw [step.drawn]
      refine kept.perm ?_
      have after := step.after.map Task.phase
      rw [List.map_cons, List.map_append] at after
      exact after.symm

/-- Wherever the service comes to, every task keeps to the protocol and the account is in order. -/
theorem Leads.sound (h : s.Leads s') (sound : s.Sound) : s'.Sound :=
  h.preserves sound fun allowed moved sound => sound.move allowed moved

theorem Reachable.sound (h : s.Reachable) : s.Sound := Leads.sound h sound_empty

end State
end TriggerFlow.Server
