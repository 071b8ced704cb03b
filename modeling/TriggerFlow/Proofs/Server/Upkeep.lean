import TriggerFlow.Proofs.Server.Entries

/-!
Every answered call keeps the account. The calls that a phase permits are gone through one by one;
each is entered as what it does to the store or to the registry.
-/

namespace TriggerFlow.Server

open Engine
open Store (Memory)
open Store.Memory (completions isCompletionOf)

variable {id tenant : String} {owner : String → Option String} {w : World} {drawn : List String}
  {p : Phase} {ps others : List Phase} {e d : Execution} {u v : Workflow} {k : Ticket}
  {t : List Exchange} {c : Call} {o : Chance}

theorem of_none {x : String} {P : Prop} (h : none = some x) : P :=
  absurd h (Option.some_ne_none x).symm

theorem perform_store (working : o.outage = none) (c : Store.Call) :
    w.perform o (.store c) =
      ((w.memory.reply o.time o.id c).1,
        { w with memory := (w.memory.reply o.time o.id c).2 }) := by
  rw [World.perform, working]
  rfl

theorem kept_perform (working : o.outage = none) (c : Call) : Kept ⟨c, (w.perform o c).1⟩ := by
  cases c with
  | store c =>
      rw [perform_store working]
      cases c with
      | markCancelled id tenant finish =>
          show Kept ⟨.store (.markCancelled id tenant finish),
            .ok (w.memory.markCancelled id tenant finish).1⟩
          obtain h | ⟨l, -, -, -, h⟩ := w.memory.markCancelled_cases id tenant finish
          · rw [h]
            trivial
          · rw [h]
            rfl
      | _ => trivial
  | _ => trivial

namespace Phase.Early

theorem claim? (h : p.Early) : p.claim? = none := by cases h <;> rfl

theorem lost? (h : p.Early) : p.lost? = none := by cases h <;> rfl

theorem works? (h : p.Early) : p.works? = none := by cases h <;> rfl

theorem owes (h : p.Early) (i : String) : p.owes i = false := by cases h <;> rfl

end Phase.Early

namespace Ledger

variable {fresh : String}

theorem idle (h : Ledger owner drawn w (p :: others)) (new : fresh ∉ drawn) :
    Ledger owner (fresh :: drawn) w (p :: others) :=
  h.look new (fun _ => .inl) rfl (fun _ => id) (fun _ => rfl) (h.holds p List.mem_cons_self)

theorem nobody (h : Ledger owner drawn w (p :: others)) (new : fresh ∉ drawn) :
    w.record? fresh = none ∧ w.ticket? fresh = none ∧ owner fresh = none := by
  refine ⟨h.unstored new, ?_, ?_⟩
  · cases held : w.ticket? fresh with
    | none => rfl
    | some k => exact absurd (h.books.ticket held).1 new
  · cases mine : owner fresh with
    | none => rfl
    | some tenant => exact absurd (h.books.owned mine) new

/-- Whatever a task does before a record is its business. -/
theorem mild (h : Ledger owner drawn w (p :: others)) (early : p.Early) (mild : Mild c)
    (working : o.outage = none) (new : o.id ∉ drawn) :
    ∃ owner', Ledger owner' (o.id :: drawn) (w.perform o c).2
      (p.after ⟨c, (w.perform o c).1⟩ :: others) := by
  rw [early.after_eq mild]
  cases c with
  | awaitBackground => exact ⟨owner, h.idle new⟩
  | store c =>
      rw [perform_store working]
      cases c with
      | getWorkflow id tenant =>
          show ∃ owner', Ledger owner' _ w
            (p.look ⟨.store (.getWorkflow id tenant), .ok (w.memory.workflow? id tenant)⟩ :: others)
          cases found : w.memory.workflow? id tenant with
          | none => exact ⟨owner, h.idle new⟩
          | some v =>
              obtain ⟨stored, -⟩ := Memory.workflow?_eq_some.mp found
              refine ⟨owner, h.look new nofun early.lost?.symm ?_ (fun i => (early.owes i).symm)
                ⟨id, h.books.workflow stored⟩⟩
              rw [early.works?]
              exact nofun
      | createWorkflow u =>
          obtain ⟨absent, free, nobody⟩ := h.nobody new
          have named : Store.Memory.idFor u o.id = o.id := by
            rw [Store.Memory.idFor, mild.1]
          show ∃ owner', Ledger owner' _ (w.withWorkflow (Store.Memory.idFor u o.id) _) _
          rw [named]
          exact h.created new (h.unclaimed new) absent free nobody (.inl rfl) rfl mild.2
            early (h.holds p List.mem_cons_self) early.lost? early.works? early.owes
      | listWorkflows | listExecutions => exact ⟨owner, h.idle new⟩
      | updateWorkflow u =>
          exact ⟨owner, h.revised new (w.memory.revises_updateWorkflow o.time o.id u)⟩
      | deleteWorkflow id tenant =>
          exact ⟨owner, h.revised new (w.memory.revises_deleteWorkflow id tenant)⟩
      | _ => exact mild.elim
  | _ => exact mild.elim

theorem lookedUp (h : Ledger owner drawn w (.idle :: others)) (new : fresh ∉ drawn) :
    Ledger owner (fresh :: drawn) w (Phase.after .idle
      ⟨.store (.getExecution id tenant), .ok (w.memory.execution? id tenant)⟩ :: others) := by
  cases found : w.memory.execution? id tenant with
  | none => exact h.idle new
  | some e =>
      obtain ⟨stored, mine⟩ := Memory.execution?_eq_some.mp found
      show Ledger owner _ w ((if e.isFinished then Phase.seen id e else .found id tenant) :: others)
      split
      · next finished =>
        exact h.look new nofun rfl nofun (fun _ => rfl) ⟨finished, stored⟩
      · exact h.look new nofun rfl nofun (fun _ => rfl) ⟨e, stored, mine⟩

theorem lookedAgain (h : Ledger owner drawn w (.gone id tenant :: others)) (new : fresh ∉ drawn) :
    Ledger owner (fresh :: drawn) w (Phase.after (.gone id tenant)
      ⟨.store (.getExecution id tenant), .ok (w.memory.execution? id tenant)⟩ :: others) := by
  obtain ⟨known, gone⟩ := h.holds _ List.mem_cons_self
  cases found : w.memory.execution? id tenant with
  | none => exact h.idle new
  | some e =>
      obtain ⟨stored, mine⟩ := Memory.execution?_eq_some.mp found
      show Ledger owner _ w ((if e.isFinished then Phase.seen id e else .stranded id) :: others)
      split
      · next finished =>
        exact h.look new nofun rfl nofun (fun _ => rfl) ⟨finished, stored⟩
      · next running =>
        refine h.look new nofun rfl nofun (fun _ => rfl) ?_
        obtain ⟨e', stored', finished⟩ | lost := gone
        · cases stored.symm.trans stored'
          exact absurd finished running
        · exact lost

/-- An id was drawn, which is nobody's. -/
theorem drew (h : Ledger owner drawn w (.loaded v :: others)) (new : fresh ∉ drawn) :
    Ledger owner (fresh :: drawn) w (.drew v fresh :: others) := by
  refine h.look new ?_ rfl nofun (fun _ => rfl) ⟨h.holds _ List.mem_cons_self, h.nobody new⟩
  rintro id ⟨⟩
  exact .inr rfl

theorem copied (h : Ledger owner drawn w (.drew v id :: others)) (new : fresh ∉ drawn)
    (named : u.id = some id) (uncounted : u.runCount = 0) (time : Moment) :
    ∃ owner', Ledger owner' (fresh :: drawn)
      { w with memory := (w.memory.createWorkflow time fresh u).2 } (.idle :: others) := by
  obtain ⟨-, absent, free, nobody⟩ := h.holds _ List.mem_cons_self
  by_cases empty : id = ""
  · obtain ⟨absent, free, nobody⟩ := h.nobody new
    have named : Store.Memory.idFor u fresh = fresh := by
      rw [Store.Memory.idFor, named]
      exact if_pos empty
    show ∃ owner', Ledger owner' _ (w.withWorkflow (Store.Memory.idFor u fresh) _) _
    rw [named]
    exact h.created new (h.unclaimed new) absent free nobody (.inl rfl) rfl uncounted .idle trivial
      rfl rfl fun _ => rfl
  · have named : Store.Memory.idFor u fresh = id := by
      rw [Store.Memory.idFor, named]
      exact if_neg empty
    show ∃ owner', Ledger owner' _ (w.withWorkflow (Store.Memory.idFor u fresh) _) _
    rw [named]
    exact h.created new ((claims_cons.mp h.claims).2 id rfl) absent free nobody
      (.inr (h.claimed _ List.mem_cons_self _ rfl)) rfl uncounted .idle trivial rfl rfl fun _ => rfl

theorem saved_eq (before : ∀ l, w.record? e.id = some l → l.isFinished = false) :
    ({ w with memory := w.memory.saveExecution e } : World) = w.withRecord e := by
  rw [Memory.saveExecution_eq_put before]
  rfl

theorem begun (h : Ledger owner drawn w (.drew v e.id :: others)) (new : fresh ∉ drawn)
    (launched : Launched v e) :
    Ledger owner (fresh :: drawn) { w with memory := w.memory.saveExecution e }
      (.saved v e :: others) := by
  obtain ⟨⟨i, named, mine⟩, absent, free, -⟩ := h.holds _ List.mem_cons_self
  have running : e.isFinished = false := Execution.isFinished_eq_false.mpr launched.running
  have before (l : Execution) (stored : w.record? e.id = some l) : False := by
    cases absent.symm.trans stored
  have mine : owner e.workflow = some e.tenant := by
    cases named.symm.trans launched.workflow
    rw [mine, launched.tenant]
  have own := (claims_cons.mp h.claims).2 e.id rfl
  rw [saved_eq fun l stored => (before l stored).elim]
  exact h.recorded new (fun q hq taken => absurd taken (own q hq))
    (fun l stored => (before l stored).elim) mine (h.claimed _ List.mem_cons_self _ rfl)
    (fun _ => id) rfl (fun _ => of_none) (fun _ => rfl) (fun _ => rfl)
    (fun i => (Memory.isCompletionOf_of_unfinished running).symm)
    ⟨running, record?_withRecord.trans (if_pos rfl), free⟩

theorem attached (h : Ledger owner drawn w (.ready v e :: others)) (new : fresh ∉ drawn) :
    Ledger owner (fresh :: drawn) (w.withRuns (w.runs.attach e.id).2)
      (.running v e (w.runs.attach e.id).1 t :: others) := by
  obtain ⟨running, stored, k, held⟩ := h.holds _ List.mem_cons_self
  rw [Runs.attach_of_some held]
  exact h.look new (fun _ => .inl) rfl (fun _ => id) (fun _ => rfl)
    ⟨running, ⟨e, stored, onlySteps_refl e⟩, held⟩

theorem resaved {p' : Phase} (h : Ledger owner drawn w (.running v e k t :: others))
    (new : fresh ∉ drawn) (id : d.id = e.id) (workflow : d.workflow = e.workflow)
    (tenant : d.tenant = e.tenant) (claim : p'.claim? = some d.id) (lost : p'.lost? = none)
    (works : d.isFinished = false → p'.works? = some d.id)
    (owes : ∀ i, p'.owes i = isCompletionOf i d)
    (holds : p'.Holds owner (w.withRecord d) (Lost (.running v e k t :: others))) :
    Ledger owner (fresh :: drawn) { w with memory := w.memory.saveExecution d } (p' :: others) := by
  obtain ⟨running, ⟨l, stored, steps⟩, -⟩ := h.holds _ List.mem_cons_self
  have own := (claims_cons.mp h.claims).2 e.id rfl
  have known := h.claimed _ List.mem_cons_self e.id rfl
  have mine := (h.books.stored stored).2.2
  rw [steps.workflow, steps.tenant, ← workflow, ← tenant] at mine
  rw [← id] at own known stored
  have before (l' : Execution) (stored' : w.record? d.id = some l') :
      l'.isFinished = false ∧ l'.tenant = d.tenant := by
    cases stored.symm.trans stored'
    exact ⟨Execution.isFinished_eq_false.mpr (steps.status.trans running),
      steps.tenant.trans tenant.symm⟩
  rw [saved_eq fun l' stored' => (before l' stored').1]
  refine h.recorded new (fun q hq taken => absurd taken (own q hq)) before mine known ?_ lost ?_
    works (fun _ => rfl) owes holds
  · intro i claimed
    rw [← claimed, claim, id]
    rfl
  · rintro i ⟨⟩
    exact id.symm

/-- The record of a run was saved with other steps. -/
theorem progressed {l : Execution} {t' : List Exchange}
    (h : Ledger owner drawn w (.running v e k t :: others)) (new : fresh ∉ drawn)
    (steps : OnlySteps e l) :
    Ledger owner (fresh :: drawn) { w with memory := w.memory.saveExecution l }
      (.running v e k t' :: others) := by
  obtain ⟨running, -, held⟩ := h.holds _ List.mem_cons_self
  have unfinished : l.isFinished = false :=
    Execution.isFinished_eq_false.mpr (steps.status.trans running)
  have own : (Phase.running v e k t').claim? = some l.id := congrArg some steps.id.symm
  refine h.resaved new steps.id steps.workflow steps.tenant own rfl (fun _ => own)
    (fun i => (Memory.isCompletionOf_of_unfinished unfinished).symm) ⟨running, ?_, held⟩
  exact ⟨l, record?_withRecord.trans (if_pos steps.id.symm), steps⟩

theorem ended (h : Ledger owner drawn w (.running v e k t :: others)) (new : fresh ∉ drawn)
    (ending : Ending e d) :
    Ledger owner (fresh :: drawn) { w with memory := w.memory.saveExecution d }
      (.stored d k :: others) := by
  obtain ⟨-, -, held⟩ := h.holds _ List.mem_cons_self
  refine h.resaved new ending.id ending.workflow ending.tenant rfl rfl (fun unfinished => ?_)
    (fun _ => rfl) ⟨ending.finished, record?_withRecord.trans (if_pos rfl), ending.id ▸ held⟩
  cases ending.finished.symm.trans unfinished

theorem counted (h : Ledger owner drawn w (.stored d k :: others)) (new : fresh ∉ drawn)
    (completed : d.status = .completed) (finish : Moment) :
    Ledger owner (fresh :: drawn)
      { w with memory := w.memory.incrementRunCount (some d.workflow) d.tenant finish }
      (.counted d k :: others) := by
  have holds := h.holds _ List.mem_cons_self
  have mine := (h.books.stored holds.2.1).2.2
  have books := h.books.widen fresh
  have owed (i : String) : (Phase.stored d k :: others).countP (Phase.owes i) =
      (Phase.counted d k :: others).countP (Phase.owes i) + if i = d.workflow then 1 else 0 := by
    rw [List.countP_cons, List.countP_cons]
    by_cases same : i = d.workflow
    · simp [Phase.owes, isCompletionOf, completed, same]
    · simp [Phase.owes, isCompletionOf, same, Ne.symm same]
  obtain ⟨u, stored, tenants, counted⟩ | ⟨foreign, same⟩ :=
    w.memory.incrementRunCount_cases d.workflow d.tenant finish
  · rw [counted]
    have found {i : String} {v : Workflow}
        (found :
          (w.memory.workflows.put d.workflow (Memory.countedOnce u finish)).get? i = some v) :
        i = d.workflow ∧ v = Memory.countedOnce u finish ∨
          i ≠ d.workflow ∧ w.memory.workflows.get? i = some v := by
      rw [Keyed.get?_put] at found
      split at found
      · next here =>
        cases found
        exact .inl ⟨here, rfl⟩
      · next other => exact .inr ⟨other, found⟩
    refine h.quiet new (fun _ => rfl) (fun _ => rfl) { books with workflow := ?_ } (fun _ => .inl)
      rfl (fun _ => of_none) holds ?_
    · intro i v stored'
      obtain ⟨rfl, rfl⟩ | ⟨-, old⟩ := found stored'
      · exact (books.workflow stored :)
      · exact books.workflow old
    · intro i v stored'
      show v.runCount + _ = ((completions w.memory i : Nat) : Int)
      obtain ⟨rfl, rfl⟩ | ⟨other, old⟩ := found stored'
      · have counts := h.counts stored
        rw [owed, if_pos rfl] at counts
        simp only [Memory.countedOnce]
        omega
      · have counts := h.counts old
        rw [owed, if_neg other] at counts
        exact counts
  · rw [same]
    refine h.quiet new (fun _ => rfl) (fun _ => rfl) books (fun _ => .inl) rfl (fun _ => of_none)
      holds ?_
    intro i v stored
    have other : i ≠ d.workflow := by
      rintro rfl
      exact foreign v stored (Option.some.inj ((h.books.workflow stored).2.symm.trans mine))
    have counts := h.counts stored
    rw [owed, if_neg other] at counts
    exact counts

theorem left (h : Ledger owner drawn w (p :: others)) (new : fresh ∉ drawn)
    (own : p = .counted d k ∨ p = .stored d k ∧ d.status ≠ .completed) :
    Ledger owner (fresh :: drawn) (w.withRuns (w.runs.release d.id k)) (.released d :: others) := by
  obtain rfl | ⟨rfl, incomplete⟩ := own
  · obtain ⟨finished, stored, held⟩ := h.holds _ List.mem_cons_self
    exact h.released new rfl held (.inl ⟨d, stored, finished⟩) nofun (fun _ => id) nofun
      (fun _ => rfl) (fun _ => rfl) ⟨finished, stored⟩
  · obtain ⟨finished, stored, held⟩ := h.holds _ List.mem_cons_self
    refine h.released new rfl held (.inl ⟨d, stored, finished⟩) nofun (fun _ => id) nofun ?_
      (fun _ => rfl) ⟨finished, stored⟩
    intro i
    simp [Phase.owes, isCompletionOf, incomplete]

theorem aborted {t' : List Exchange} (h : Ledger owner drawn w (.running v e k t :: others))
    (new : fresh ∉ drawn) :
    Ledger owner (fresh :: drawn) (w.withRuns (w.runs.release e.id k))
      (.aborted v e t' :: others) := by
  obtain ⟨-, -, held⟩ := h.holds _ List.mem_cons_self
  exact h.released new rfl held (.inr rfl) (fun _ => id) nofun (fun _ => id) (fun _ => rfl)
    (fun _ => rfl) trivial

/-- A record without a ticket has no run left, unless it is about to be registered. -/
theorem over_of_unregistered (h : Ledger owner drawn w (p :: others)) (known : Known w id tenant)
    (none : w.ticket? id = none) (away : ∀ q ∈ p :: others, q.isNew = false) :
    Over w (Lost (p :: others)) id := by
  obtain ⟨e, stored, -⟩ := known
  cases finished : e.isFinished with
  | true => exact .inl ⟨e, stored, finished⟩
  | false =>
      obtain ⟨q, hq, works⟩ := h.worked stored finished
      have holds := h.holds q hq
      cases q with
      | saved v e => cases away _ hq
      | ready v e =>
          cases works
          obtain ⟨-, -, k, held⟩ := holds
          cases none.symm.trans held
      | running v e k t =>
          cases works
          cases none.symm.trans holds.2.2
      | aborted => exact .inr ⟨_, hq, works⟩
      | _ => cases works

theorem asked (h : Ledger owner drawn w (.found id tenant :: others)) (new : fresh ∉ drawn)
    (away : ∀ q ∈ others, q.isNew = false) :
    Ledger owner (fresh :: drawn) (w.withRuns (w.runs.requestCancel id).2)
      (Phase.after (.found id tenant) ⟨.requestCancel id, (w.runs.requestCancel id).1⟩ ::
        others) := by
  have known := h.holds _ List.mem_cons_self
  cases held : w.ticket? id with
  | none =>
      rw [Runs.requestCancel_of_none held]
      refine h.look new nofun rfl nofun (fun _ => rfl) ⟨known, h.over_of_unregistered known held ?_⟩
      rw [List.forall_mem_cons]
      exact ⟨rfl, away⟩
  | some k =>
      have asked : (w.runs.requestCancel id).1 = true := by
        rw [Runs.requestCancel_of_some held]
      rw [asked]
      refine h.quiet new (fun _ => rfl) (fun _ => Runs.ticket?_requestCancel) h.books.requestCancel
        nofun rfl nofun ⟨known, .inr ⟨k, held⟩⟩ ?_
      intro i v found
      exact h.counts found

theorem awaited (h : Ledger owner drawn w (p :: others)) (new : fresh ∉ drawn)
    (ready : p = .asked id tenant ∧ w.ticket? id = none ∨
      ∃ k, p = .waiting id tenant k ∧ w.runs.isFinished k = true) :
    Ledger owner (fresh :: drawn) w (.gone id tenant :: others) := by
  obtain ⟨rfl, none⟩ | ⟨k, rfl, finished⟩ := ready
  · obtain ⟨known, gone | ⟨k, held⟩⟩ := h.holds _ List.mem_cons_self
    · exact h.look new nofun rfl nofun (fun _ => rfl) ⟨known, gone⟩
    · cases none.symm.trans held
  · obtain ⟨known, gone | held⟩ := h.holds _ List.mem_cons_self
    · exact h.look new nofun rfl nofun (fun _ => rfl) ⟨known, gone⟩
    · cases finished.symm.trans (h.books.ticket held).2.2

theorem eq_of_claim (nodup : (ps.filterMap Phase.claim?).Nodup) {q q' : Phase} (hq : q ∈ ps)
    (hq' : q' ∈ ps) (claim : q.claim? = some id) (claim' : q'.claim? = some id) : q = q' := by
  induction ps with
  | nil => cases hq
  | cons p ps ih =>
      obtain ⟨rest, own⟩ := claims_cons.mp nodup
      obtain rfl | here := List.mem_cons.mp hq
      · obtain rfl | there := List.mem_cons.mp hq'
        · rfl
        · exact absurd claim' (own id claim q' there)
      · obtain rfl | there := List.mem_cons.mp hq'
        · exact absurd claim (own id claim' q here)
        · exact ih rest here there

theorem marked (h : Ledger owner drawn w (.gone id tenant :: others)) (new : fresh ∉ drawn)
    (finish : Moment) :
    Ledger owner (fresh :: drawn) { w with memory := (w.memory.markCancelled id tenant finish).2 }
      (Phase.after (.gone id tenant) ⟨.store (.markCancelled id tenant finish),
        .ok (w.memory.markCancelled id tenant finish).1⟩ :: others) := by
  obtain ⟨⟨e, stored, mine⟩, gone⟩ := h.holds _ List.mem_cons_self
  cases finished : e.isFinished with
  | true =>
      rw [Memory.markCancelled_of_finished stored finished]
      exact h.look new (fun _ => of_none) rfl (fun _ => of_none) (fun _ => rfl)
        ⟨e, stored, finished⟩
  | false =>
      rw [Memory.markCancelled_of_running stored mine finished]
      obtain ⟨same, known, owned⟩ := h.books.stored stored
      subst same
      -- who claims the record is the task that left it behind
      have apart (q : Phase) (hq : q ∈ others) (claim : q.claim? = some e.id) :
          q.lost? = some e.id := by
        obtain ⟨l, stored', gone⟩ | ⟨a, ha, lost⟩ := gone
        · cases stored.symm.trans stored'
          cases finished.symm.trans gone
        · have claimed : a.claim? = some e.id := by
            cases a with
            | aborted => exact lost
            | _ => cases lost
          rw [eq_of_claim h.claims (.tail _ hq) ha claim claimed]
          exact lost
      have before (l : Execution) (stored' : w.record? e.id = some l) :
          l.isFinished = false ∧ l.tenant = (Memory.cancelled e finish).tenant := by
        cases stored.symm.trans stored'
        exact ⟨finished, rfl⟩
      have uncompleted (i : String) : isCompletionOf i (Memory.cancelled e finish) = false := by
        simp [isCompletionOf, Memory.cancelled]
      exact h.recorded (e := Memory.cancelled e finish) new apart before owned known
        (fun _ => of_none) rfl (fun _ => of_none) (fun running => by cases running) (fun _ => rfl)
        (fun i => (uncompleted i).symm)
        ⟨rfl, record?_withRecord.trans (if_pos rfl)⟩

theorem joined (h : Ledger owner drawn w ps) (claim : p.claim? = none) (lost : p.lost? = none)
    (owes : ∀ i, p.owes i = false) (holds : p.Holds owner w (Lost ps)) :
    Ledger owner drawn w (p :: ps) := by
  have same : Lost (p :: ps) = Lost ps := by
    funext id
    simp [Lost, lost]
  refine ⟨h.books, ?_, ?_, ?_, ?_, ?_⟩
  · rw [List.filterMap_cons_none claim]
    exact h.claims
  · rw [List.forall_mem_cons, claim]
    exact ⟨fun _ => of_none, h.claimed⟩
  · rw [same, List.forall_mem_cons]
    exact ⟨holds, h.holds⟩
  · intro id l stored running
    obtain ⟨q, hq, works⟩ := h.worked stored running
    exact ⟨q, .tail _ hq, works⟩
  · intro i u found
    rw [List.countP_cons, owes]
    exact h.counts found

/-- The run of a new record was handed to a task of its own. -/
theorem handed (h : Ledger owner drawn w (.ready v e :: others)) (new : fresh ∉ drawn) :
    Ledger owner (fresh :: drawn) w (.handed e :: .ready v e :: others) :=
  (h.idle new).joined rfl rfl (fun _ => rfl) trivial

end Ledger

/-- The phases in which the tasks that a call starts are. -/
def opened : Call → List Phase
  | .startInBackground w e => [.ready w e]
  | _ => []

namespace Ledger

/-- Who runs in the background is not accounted for. -/
theorem background (h : Ledger owner drawn w ps) (ids : List String) :
    Ledger owner drawn { w with background := ids } ps where
  books := ⟨h.books.workflow, h.books.owned, h.books.record, h.books.ticket, h.books.distinct⟩
  claims := h.claims
  claimed := h.claimed
  holds p hp := (h.holds p hp).congr (fun _ => rfl) fun _ => rfl
  worked := h.worked
  counts := h.counts

/-- Whatever a task does in its walk. -/
theorem worked_on (h : Ledger owner drawn w (.running v e k t :: others)) (new : o.id ∉ drawn)
    (working : o.outage = none) {r : Reply c} (work : Working e k ⟨c, r⟩) :
    Ledger owner (o.id :: drawn) (w.perform o c).2
      ((Phase.running v e k t).after ⟨c, (w.perform o c).1⟩ :: others) := by
  have holds := h.holds _ List.mem_cons_self
  have same {t' : List Exchange} : Ledger owner (o.id :: drawn) w (.running v e k t' :: others) :=
    h.look new (fun _ => .inl) rfl (fun _ => id) (fun _ => rfl) holds
  cases work with
  | @saved l steps reply =>
      have running : e.status = .running := holds.1
      rw [perform_store working]
      show Ledger _ _ _ ((Phase.running v e k t).after (saving l (.ok ())) :: others)
      rw [after_work running (.saved steps (.ok ()))]
      exact h.progressed new steps
  | drawn | timed | told | invoked | polled => exact same

/-- Every answered call keeps the account. -/
theorem answered (h : Ledger owner drawn w (p :: others)) (permits : Permits p c)
    (working : o.outage = none) (new : o.id ∉ drawn) (away : ∀ q ∈ others, q.isNew = false)
    (awake : ∀ id tenant, p ≠ .asked id tenant) :
    ∃ owner', Ledger owner' (o.id :: drawn) (w.perform o c).2
      (p.after ⟨c, (w.perform o c).1⟩ :: (opened c ++ others)) := by
  cases permits with
  | @mild _ early c mild =>
      have nothing : opened c = [] := by
        cases c <;> first | rfl | exact mild.elim
      rw [nothing]
      exact h.mild early mild working new
  | lookUp id tenant =>
      rw [perform_store working]
      exact ⟨owner, h.lookedUp new⟩
  | draw v => exact ⟨owner, h.drew new⟩
  | date v id => exact ⟨owner, h.idle new⟩
  | copy v id named uncounted =>
      rw [perform_store working]
      exact h.copied new named uncounted o.time
  | begin launched =>
      rw [perform_store working]
      exact ⟨owner, h.begun new launched⟩
  | register v e => exact ⟨owner, h.registered new⟩
  | announce => exact ⟨owner, h.idle new⟩
  | hand launched => exact ⟨owner, (h.handed new).background _⟩
  | attach v e => exact ⟨owner, h.attached new⟩
  | @work v e k t c r work =>
      have nothing : opened c = [] := by
        cases work <;> rfl
      rw [nothing]
      exact ⟨owner, h.worked_on new working work⟩
  | finish v k t ending =>
      rw [perform_store working]
      show ∃ owner', Ledger owner' _ _ ((Phase.running v _ k t).after (saving _ (.ok ())) :: others)
      rw [after_finish ending.finished]
      exact ⟨owner, h.ended new ending⟩
  | abort raised => exact ⟨owner, h.aborted new⟩
  | count k completed finish =>
      rw [perform_store working]
      exact ⟨owner, h.counted new completed finish⟩
  | release k incomplete => exact ⟨owner, h.left new (.inr ⟨rfl, incomplete⟩)⟩
  | releaseCounted d k => exact ⟨owner, h.left new (.inl rfl)⟩
  | farewell => exact ⟨owner, h.idle new⟩
  | leave | leaveAborted => exact ⟨owner, (h.idle new).background _⟩
  | ask id tenant => exact ⟨owner, h.asked new away⟩
  | await id tenant => exact absurd rfl (awake id tenant)
  | lookAgain id tenant =>
      rw [perform_store working]
      exact ⟨owner, h.lookedAgain new⟩
  | dateEnd => exact ⟨owner, h.idle new⟩
  | mark id tenant finish =>
      rw [perform_store working]
      exact ⟨owner, h.marked new finish⟩

end Ledger
end TriggerFlow.Server
