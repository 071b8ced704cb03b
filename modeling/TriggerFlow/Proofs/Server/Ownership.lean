import TriggerFlow.Proofs.Server.Moves
import TriggerFlow.Proofs.Server.Reach
import TriggerFlow.Proofs.Server.Tenants

/-!
What a task is about. The records that a task works on and the ticket that it holds belong to the
tenant it is made for, so that whatever it writes is new or his already.
-/

namespace TriggerFlow.Server

open Engine Program Service
open Store (Memory)

variable {w : World} {o : Chance} {owner : Option String} {id : String} {p : Phase} {c : Call}
  {r : Reply c} {k k' : Ticket} {s s' : State} {t : Task}

namespace Phase

def held? : Phase → Option Ticket
  | running _ _ k _ | stored _ k | counted _ k => some k
  | _ => none

theorem Early.held? (h : p.Early) : p.held? = none := by
  cases h <;> rfl

/-- What a task is about in a phase belongs to its tenant. -/
def BelongsTo (owner : Option String) : Phase → Prop
  | loaded w | drew w _ => owner = some w.tenant
  | saved _ e | ready _ e | running _ e _ _ | aborted _ e _ => owner = some e.tenant
  | stored d _ | counted d _ => owner = some d.tenant
  | found _ tenant | asked _ tenant | waiting _ tenant _ | gone _ tenant => owner = some tenant
  | _ => True

end Phase

def Asks (owner : Option String) : Call → Prop
  | .store c => ∃ tenant, owner = some tenant ∧ c.IsOf tenant
  | _ => True

theorem Plain.asks (h : Plain owner c) : Asks owner c := by
  cases c with
  | store c => exact h
  | _ => trivial

theorem Asks.saved {e : Execution} (h : Asks owner (.store (.saveExecution e))) :
    owner = some e.tenant := by
  obtain ⟨tenant, rfl, mine⟩ := h
  exact congrArg some mine.symm

theorem belongs_look {x : Exchange} (h : p.BelongsTo owner) (asks : Asks owner x.1)
    (got : Got owner x) : (p.look x).BelongsTo owner := by
  unfold Phase.look
  split
  · exact got
  · split
    · trivial
    · obtain ⟨tenant, rfl, rfl⟩ := asks
      rfl
  · exact h

theorem belongs_after (h : p.BelongsTo owner) (permits : Permits p c) (asks : Asks owner c)
    (got : Got owner ⟨c, r⟩) : (p.after ⟨c, r⟩).BelongsTo owner := by
  cases permits with
  | mild early mild =>
      rw [early.after_eq mild]
      exact belongs_look h asks got
  | lookUp => exact belongs_look h asks got
  | begin => exact asks.saved
  | work w t work =>
      cases work with
      | saved =>
          show Phase.BelongsTo owner (if _ then _ else _)
          split
          · exact asks.saved
          · exact h
      | drawn | timed | told | invoked | polled => exact h
  | finish =>
      show Phase.BelongsTo owner (if _ then _ else _)
      split
      · exact asks.saved
      · exact h
  | ask => cases r <;> exact h
  | lookAgain =>
      match r with
      | .error f | .ok none => exact h
      | .ok (some e) =>
          show Phase.BelongsTo owner (if _ then _ else _)
          split <;> trivial
  | mark =>
      match r with
      | .error f => exact h
      | .ok none | .ok (some e) => trivial
  | copy | hand | release | releaseCounted => trivial
  | _ => exact h

/-- Only runs that begin or end come to hold another ticket. -/
theorem held?_after (permits : Permits p c) (plain : Plain owner c) :
    (p.after ⟨c, r⟩).held? = p.held? := by
  cases permits with
  | mild early mild =>
      have later : (p.after ⟨c, r⟩).Early := early.after mild
      rw [later.held?, early.held?]
  | lookUp =>
      show (Phase.look .idle _).held? = none
      unfold Phase.look
      split
      · rfl
      · split <;> rfl
      · rfl
  | work w t work =>
      cases work with
      | saved =>
          show Phase.held? (if _ then _ else _) = _
          split <;> rfl
      | polled => exact plain.elim
      | drawn | timed | told | invoked => rfl
  | finish =>
      show Phase.held? (if _ then _ else _) = _
      split <;> rfl
  | ask => cases r <;> rfl
  | lookAgain =>
      match r with
      | .error f | .ok none => rfl
      | .ok (some e) =>
          show Phase.held? (if _ then _ else _) = _
          split <;> rfl
  | mark =>
      match r with
      | .error f | .ok none | .ok (some e) => rfl
  | attach | register | release | releaseCounted | abort => exact plain.elim
  | _ => rfl

theorem got_perform (w : World) (o : Chance) (asks : Asks owner c) :
    Got owner ⟨c, (w.perform o c).1⟩ := by
  cases c with
  | store c =>
      cases c with
      | getWorkflow id tenant =>
          obtain ⟨_, rfl, rfl⟩ := asks
          unfold World.perform
          dsimp only
          split
          · trivial
          · unfold Memory.reply
            dsimp only
            cases found : w.memory.workflow? id tenant with
            | none => trivial
            | some v => exact congrArg some (Memory.workflow?_eq_some.mp found).2.symm
      | _ => trivial
  | _ => trivial

def both (k : Option Ticket) : Option (Ticket × Ticket) := k.map fun k => (k, k)

theorem both_eq_some {h : Option Ticket} (same : both h = some (k, k')) : h = some k ∧ k = k' := by
  obtain ⟨l, rfl, same⟩ := Option.map_eq_some_iff.mp same
  cases same
  exact ⟨rfl, rfl⟩

/-- A program that is like itself stays so when it is answered. -/
theorem alike_answered {α : Type} {post : Option (Ticket × Ticket) → α → Prop}
    {next : Reply c → Work α}
    (alike : Alike owner post (both p.held?) (.call c next) (.call c next))
    (belongs : p.BelongsTo owner) (permits : Permits p c)
    (got : Asks owner c → Got owner ⟨c, r⟩) :
    (p.after ⟨c, r⟩).BelongsTo owner ∧
      Alike owner post (both (p.after ⟨c, r⟩).held?) (next r) (next r) := by
  have after (asks : Asks owner c) : (p.after ⟨c, r⟩).BelongsTo owner :=
    belongs_after belongs permits asks (got asks)
  generalize same : both p.held? = held at alike
  cases alike with
  | plain mine rest =>
      refine ⟨after mine.asks, ?_⟩
      rw [held?_after permits mine, same]
      exact rest r (got mine.asks)
  | register rest =>
      refine ⟨after trivial, ?_⟩
      cases permits with
      | mild _ mild => exact mild.elim
      | work _ _ work => cases work
      | register => exact same ▸ rest r r
  | attach rest =>
      refine ⟨after trivial, ?_⟩
      cases permits with
      | mild _ mild => exact mild.elim
      | work _ _ work => cases work
      | attach => exact rest r r
  | isCancelled rest =>
      refine ⟨after trivial, ?_⟩
      obtain ⟨held, -⟩ := both_eq_some same
      cases permits with
      | mild _ mild => exact mild.elim
      | work _ _ work => exact same ▸ rest r
  | release rest =>
      refine ⟨after trivial, ?_⟩
      cases permits with
      | mild _ mild => exact mild.elim
      | work _ _ work => cases work
      | abort | release | releaseCounted => exact rest

namespace Task

/-- A task that makes its calls for its tenant, and whose ticket does not matter but to be shown. -/
structure Tame (t : Task) : Prop where
  belongs : t.reached.BelongsTo t.job.tenant?
  alike : Alike t.job.tenant? (fun _ _ => True) (both t.reached.held?) t.rest t.rest

theorem tame_start {j : Job} (fit : j.Fit) : (start j).Tame := by
  refine ⟨?_, ?_⟩
  · cases j with
    | operation o => trivial
    | run w e => exact rfl
  · have alike := alike_work j fit
    cases j <;> exact alike

variable {job : Job} {past : List Exchange} {next : Reply c → Work (Except Failure job.Given)}
  {waiting : Option Wait}

theorem Tame.answered (sound : Sound ⟨job, past, .call c next, waiting⟩)
    (tame : Tame ⟨job, past, .call c next, waiting⟩) (working : o.outage = none) :
    Tame ⟨job, past ++ [⟨c, (w.perform o c).1⟩], next (w.perform o c).1, none⟩ := by
  have permits := sound.permits (kept_perform (w := w) working c)
  obtain ⟨belongs, alike⟩ := alike_answered tame.alike tame.belongs permits (got_perform w o)
  refine ⟨?_, ?_⟩
  · rw [reached, List.foldl_append]
    exact belongs
  · rw [reached, List.foldl_append]
    exact alike

end Task

section Concerns

/-- A stored record of the tenant. -/
def HasRecord (w : World) (owner : Option String) (id : String) : Prop :=
  ∃ e, w.record? id = some e ∧ owner = some e.tenant

/-- What a call concerns is new, or belongs to the tenant. -/
def Concerning (w : World) (owner : Option String) (fresh : String) : Call → Prop
  | .store (.saveExecution e) =>
    w.record? e.id = none ∧ w.ticket? e.id = none ∨ HasRecord w owner e.id
  | .store (.createWorkflow v) => w.memory.workflows.get? (Memory.idFor v fresh) = none
  | .register id => HasRecord w owner id ∧ w.ticket? id = none
  | .attach id => HasRecord w owner id ∧ ∃ k, w.ticket? id = some k
  | .release id k => HasRecord w owner id ∧ w.ticket? id = some k
  | .requestCancel id | .awaitFinished id => HasRecord w owner id
  | _ => True

variable {owners : String → Option String} {drawn : List String} {lost : String → Prop}
  {v : Workflow} {fresh tenant : String}

theorem Books.unstored (books : Books owners drawn w) (free : owners id = none) :
    w.memory.workflows.get? id = none := by
  cases found : w.memory.workflows.get? id with
  | none => rfl
  | some v => cases free.symm.trans (books.workflow found).2

theorem Books.undrawn (books : Books owners drawn w) (new : id ∉ drawn) : owners id = none := by
  cases owned : owners id with
  | none => rfl
  | some tenant => exact absurd (books.owned owned) new

theorem Books.unstored_idFor (books : Books owners drawn w) (new : fresh ∉ drawn)
    (free : ∀ i, v.id = some i → owners i = none) :
    w.memory.workflows.get? (Memory.idFor v fresh) = none := by
  refine books.unstored ?_
  unfold Memory.idFor
  split
  · next i named =>
    split
    · exact books.undrawn new
    · exact free i named
  · exact books.undrawn new

theorem hasRecord_of_known (known : Known w id tenant) : HasRecord w (some tenant) id := by
  obtain ⟨e, stored, mine⟩ := known
  exact ⟨e, stored, congrArg some mine.symm⟩

/-- In every phase, the next call concerns what is new or belongs to the tenant. -/
theorem concerning_of_holds (books : Books owners drawn w) (new : fresh ∉ drawn)
    (holds : p.Holds owners w lost) (belongs : p.BelongsTo owner) (permits : Permits p c) :
    Concerning w owner fresh c := by
  cases permits with
  | mild early mild =>
      unfold Mild at mild
      split at mild
      case h_7 => exact books.unstored_idFor new fun i named => by cases mild.1.symm.trans named
      case h_8 => exact mild.elim
      all_goals trivial
  | copy w id named =>
      refine books.unstored_idFor new fun i named' => ?_
      cases named.symm.trans named'
      exact holds.2.2.2
  | begin => exact .inl ⟨holds.2.1, holds.2.2.1⟩
  | @work _ e k t c r work =>
      cases work with
      | saved steps =>
          obtain ⟨-, ⟨l, stored, earlier⟩, -⟩ := holds
          exact .inr ⟨l, steps.id ▸ stored, belongs.trans (congrArg some earlier.tenant.symm)⟩
      | drawn | timed | told | invoked | polled => trivial
  | finish w k t ending =>
      obtain ⟨-, ⟨l, stored, earlier⟩, -⟩ := holds
      exact .inr ⟨l, ending.id ▸ stored, belongs.trans (congrArg some earlier.tenant.symm)⟩
  | register => exact ⟨⟨_, holds.2.1, belongs⟩, holds.2.2⟩
  | attach => exact ⟨⟨_, holds.2.1, belongs⟩, holds.2.2⟩
  | abort =>
      obtain ⟨-, ⟨l, stored, earlier⟩, held⟩ := holds
      exact ⟨⟨l, stored, belongs.trans (congrArg some earlier.tenant.symm)⟩, held⟩
  | release | releaseCounted => exact ⟨⟨_, holds.2.1, belongs⟩, holds.2.2⟩
  | ask =>
      obtain rfl := belongs
      exact hasRecord_of_known holds
  | await =>
      obtain rfl := belongs
      exact hasRecord_of_known holds.1
  | _ => trivial

end Concerns

section Reserved

/-- A ticket that was given out for one execution, and to no other. -/
structure Reserved (r : Runs) (id : String) (k : Ticket) : Prop where
  given : k < r.marks.length
  only : ∀ other, r.ticket? other = some k → other = id

variable {rs : Runs} {other : String}

theorem Reserved.register (h : Reserved rs id k) (other : String) :
    Reserved (rs.register other).2 id k where
  given := by
    rw [Runs.register, List.length_append]
    exact Nat.lt_add_right _ h.given
  only := by
    intro x held
    rw [Runs.ticket?_register] at held
    split at held
    · cases held
      exact absurd h.given (Nat.lt_irrefl _)
    · exact h.only x held

theorem Reserved.attach (h : Reserved rs id k) (other : String) :
    Reserved (rs.attach other).2 id k := by
  unfold Runs.attach
  split
  · exact h
  · exact h.register other

theorem Reserved.release (h : Reserved rs id k) (other : String) (j : Ticket) :
    Reserved (rs.release other j) id k where
  given := by simpa [Runs.release] using h.given
  only := by
    intro x held
    rw [Runs.ticket?_release] at held
    split at held
    · cases held
    · exact h.only x held

theorem Reserved.requestCancel (h : Reserved rs id k) (other : String) :
    Reserved (rs.requestCancel other).2 id k where
  given := by
    unfold Runs.requestCancel
    split
    · simpa using h.given
    · exact h.given
  only x held := h.only x (Runs.ticket?_requestCancel ▸ held)

theorem Reserved.perform (h : Reserved w.runs id k) (o : Chance) (c : Call) :
    Reserved (w.perform o c).2.runs id k := by
  cases c with
  | store c =>
      unfold World.perform
      dsimp only
      split <;> exact h
  | register other => exact h.register other
  | attach other => exact h.attach other
  | release other j => exact h.release other j
  | requestCancel other => exact h.requestCancel other
  | _ => exact h

theorem Books.reserved {owners : String → Option String} {drawn : List String}
    (books : Books owners drawn w) (held : w.ticket? id = some k) : Reserved w.runs id k where
  given := (books.ticket held).2.1
  only _ held' := books.distinct held' held

end Reserved

namespace State

/-- A state in which every task makes its calls for its tenant, concerned with what is his, and
every ticket that is waited for is the one of the execution that is waited for. -/
structure Orderly (s : State) : Prop extends Sound s where
  tame : ∀ t ∈ s.tasks, t.Tame
  distinct : s.world.memory.Distinct
  awaited : ∀ t ∈ s.tasks, ∀ id k, t.next? = some (.awaitFinished id) →
    t.waiting = some (.finished k) → Reserved s.world.runs id k

theorem orderly_empty : empty.Orderly where
  toSound := sound_empty
  tame := List.forall_mem_nil _
  distinct := ⟨List.nodup_nil, List.nodup_nil⟩
  awaited := List.forall_mem_nil _

theorem distinct_perform (h : w.memory.Distinct) (o : Chance) (c : Call) :
    (w.perform o c).2.memory.Distinct := by
  cases c with
  | store c =>
      unfold World.perform
      dsimp only
      split
      · exact h
      · exact h.reply _ _ c
  | _ => exact h

variable {m : Move}

theorem Orderly.concerning (h : s.Orderly) (ht : t ∈ s.tasks) (next : t.next? = some c)
    {fresh : String} (new : fresh ∉ s.drawn) :
    Concerning s.world t.job.tenant? fresh c := by
  obtain ⟨owners, account⟩ := h.account
  have holds := account.holds _ (List.mem_map_of_mem ht)
  have belongs := (h.tame t ht).belongs
  have sound := h.tasks t ht
  obtain ⟨job, past, rest, waiting⟩ := t
  cases rest with
  | done a => cases next
  | @call _ rest =>
      cases next
      have permits := sound.permits (kept_perform (w := s.world) (o := .calm (.utc 0) "") rfl c)
      by_cases asked : ∃ id tenant,
          Task.reached ⟨job, past, .call c rest, waiting⟩ = .asked id tenant
      · obtain ⟨id, tenant, asked⟩ := asked
        obtain rfl := Goes.awaits asked permits
        rw [asked] at belongs
        rw [Task.phase_asked asked] at holds
        have mine : some tenant = job.tenant? := belongs.symm
        rw [← mine]
        split at holds <;> exact hasRecord_of_known holds.1
      · rw [Task.phase_eq fun id tenant here => asked ⟨id, tenant, here⟩] at holds
        exact concerning_of_holds account.books new holds belongs permits

theorem allows_go {i : Nat} : s.allows (.go i o) = true ↔
    o.outage = none ∧ o.id ∉ s.drawn ∧ ∀ t ∈ s.tasks.eraseIdx i, t.registers = false := by
  simp only [allows, Bool.and_eq_true, Option.isNone_iff_eq_none, Bool.not_eq_true',
    List.all_eq_true, List.contains_eq_mem, decide_eq_false_iff_not, and_assoc]

theorem starts_goes {t' : Task} {w' : World} {new : List Task} (goes : Goes w o t t' w' new) :
    ∀ q ∈ new, ∃ j, q = Task.start j := by
  cases goes with
  | waits => exact List.forall_mem_nil _
  | @answered job past c next waiting ready =>
      intro q hq
      cases c with
      | startInBackground v e => exact ⟨_, List.mem_singleton.mp hq⟩
      | _ => cases hq

theorem tame_goes {t' : Task} {w' : World} {new : List Task} (goes : Goes w o t t' w' new)
    (working : o.outage = none) (sound : t.Sound) (tame : t.Tame) :
    t'.Tame ∧ ∀ t ∈ new, t.Tame := by
  have started := (goes.sound working sound).2
  constructor
  · cases goes with
    | waits => exact ⟨tame.belongs, tame.alike⟩
    | answered => exact tame.answered sound working
  · intro q hq
    obtain ⟨j, rfl⟩ := starts_goes goes q hq
    exact Task.tame_start (started _ hq).fit

theorem distinct_goes {t' : Task} {w' : World} {new : List Task} (goes : Goes w o t t' w' new)
    (h : w.memory.Distinct) : w'.memory.Distinct := by
  cases goes with
  | waits => exact h
  | answered => exact distinct_perform h o _

theorem reserved_goes {t' : Task} {w' : World} {new : List Task} (goes : Goes w o t t' w' new)
    (h : Reserved w.runs id k) : Reserved w'.runs id k := by
  cases goes with
  | waits => exact h
  | answered => exact h.perform o _

/-- What a task has begun to wait for is the ticket of the execution that it waits for. -/
theorem awaited_goes {t' : Task} {w' : World} {new : List Task} {owners : String → Option String}
    {drawn : List String} (goes : Goes w o t t' w' new) (books : Books owners drawn w)
    (h : ∀ id k, t.next? = some (.awaitFinished id) → t.waiting = some (.finished k) →
      Reserved w.runs id k) :
    ∀ t'' ∈ t' :: new, ∀ id k, t''.next? = some (.awaitFinished id) →
      t''.waiting = some (.finished k) → Reserved w'.runs id k := by
  rw [List.forall_mem_cons]
  constructor
  · intro id k next waiting
    cases goes with
    | waits long =>
        cases next
        cases waiting
        obtain ⟨k', held, same⟩ := Option.map_eq_some_iff.mp long
        cases same
        exact books.reserved held
    | answered => cases waiting
  · intro q hq id k _ waiting
    obtain ⟨j, rfl⟩ := starts_goes goes q hq
    cases waiting

theorem Orderly.move (h : s.Orderly) (allowed : s.allows m = true) (moved : s.move m = some s') :
    s'.Orderly := by
  have sound := h.toSound.move allowed moved
  cases m with
  | submit op =>
      cases moved
      refine ⟨sound, ?_, h.distinct, ?_⟩
      · rw [List.forall_mem_append, List.forall_mem_singleton]
        exact ⟨h.tame, Task.tame_start trivial⟩
      · rw [List.forall_mem_append, List.forall_mem_singleton]
        exact ⟨h.awaited, fun id k _ waiting => by cases waiting⟩
  | go i o =>
      obtain ⟨working, -, -⟩ := allows_go.mp allowed
      obtain ⟨t, t', new, turns⟩ := turns_of_move moved
      have there := List.mem_of_getElem? turns.found
      obtain ⟨tame, started⟩ := tame_goes turns.goes working (h.tasks t there) (h.tame t there)
      obtain ⟨owners, account⟩ := h.account
      have awaited := awaited_goes turns.goes account.books (h.awaited t there)
      rw [List.forall_mem_cons] at awaited
      refine ⟨sound, turns.forall_tasks h.tame tame started, distinct_goes turns.goes h.distinct,
        ?_⟩
      refine turns.forall_tasks (fun q hq id k next waiting => ?_) awaited.1 awaited.2
      exact reserved_goes turns.goes (h.awaited q hq id k next waiting)

theorem Leads.orderly (h : s.Leads s') (orderly : s.Orderly) : s'.Orderly :=
  h.preserves orderly fun allowed moved orderly => orderly.move allowed moved

theorem Reachable.orderly (h : s.Reachable) : s.Orderly := Leads.orderly h orderly_empty

end State

end TriggerFlow.Server
