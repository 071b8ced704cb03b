import TriggerFlow.Proofs.Server.Ledger

/-!
What one answered call enters into the account. Each kind of call that writes into the store or into
the registry has its own entry; all other calls leave the account as it is, but for the phase of the
task that made them.
-/

namespace TriggerFlow.Server

open Engine
open Store (Memory)
open Store.Memory (completions isCompletionOf)

variable {x id tenant fresh : String} {owner owner' : String → Option String} {w w' : World}
  {lost : String → Prop} {drawn : List String} {p p' q : Phase} {others : List Phase}
  {e d : Execution} {v : Workflow} {k : Ticket} {t : List Exchange} {o : Chance} {m : Memory}

namespace Phase

theorem Holds.congr (records : ∀ id, w'.record? id = w.record? id)
    (tickets : ∀ id, w'.ticket? id = w.ticket? id) (h : p.Holds owner w lost) :
    p.Holds owner w' lost := by
  cases p <;> simp only [Holds, Known, Over, records, tickets] at h ⊢ <;> exact h

theorem lost_cons (h : p'.lost? = p.lost?) : Lost (p' :: others) = Lost (p :: others) := by
  funext id
  simp [Lost, h]

end Phase

theorem concerns_nothing (records : ∀ id, w'.record? id = w.record? id)
    (tickets : ∀ id, w'.ticket? id = w.ticket? id) : Concerns x owner owner w w' lost where
  record_ne _ := records _
  ticket_ne _ := tickets _
  owner_ne _ := rfl
  owner h := h
  record h := ⟨_, (records x).trans h, rfl, fun _ => rfl⟩
  ticket h := .inl ((tickets x).trans h)

def World.withWorkflow (w : World) (i : String) (v : Workflow) : World :=
  { w with memory := { w.memory with workflows := w.memory.workflows.put i v } }

def giving (owner : String → Option String) (x tenant : String) : String → Option String :=
  fun i => if i = x then some tenant else owner i

theorem giving_eq (nobody : owner x = none) {i : String} (mine : owner i = some id) :
    giving owner x tenant i = some id := by
  have other : i ≠ x := by
    rintro rfl
    cases nobody.symm.trans mine
  exact (if_neg other).trans mine

theorem Books.withWorkflow (h : Books owner drawn w) (nobody : owner x = none)
    (taken : x = fresh ∨ x ∈ drawn) (named : v.id = some x) :
    Books (giving owner x v.tenant) (fresh :: drawn) (w.withWorkflow x v) where
  workflow {i u} found := by
    rw [World.withWorkflow, Keyed.get?_put] at found
    split at found
    · next here =>
      cases found
      exact ⟨here ▸ named, if_pos here⟩
    · next other =>
      obtain ⟨named, mine⟩ := h.workflow found
      exact ⟨named, (if_neg other).trans mine⟩
  owned {i tenant} known := by
    rw [giving] at known
    split at known
    · next here =>
      subst here
      obtain rfl | taken := taken
      · exact List.mem_cons_self
      · exact .tail _ taken
    · exact .tail _ (h.owned known)
  record stored := by
    obtain ⟨same, known, mine⟩ := h.record stored
    exact ⟨same, .tail _ known, giving_eq nobody mine⟩
  ticket held := ⟨.tail _ (h.ticket held).1, (h.ticket held).2⟩
  distinct := h.distinct

theorem Books.widen (h : Books owner drawn w) (fresh : String) :
    Books owner (fresh :: drawn) w where
  workflow := h.workflow
  owned mine := .tail _ (h.owned mine)
  record stored := by
    obtain ⟨same, known, mine⟩ := h.record stored
    exact ⟨same, .tail _ known, mine⟩
  ticket held := by
    obtain ⟨known, given⟩ := h.ticket held
    exact ⟨.tail _ known, given⟩
  distinct := h.distinct

namespace Ledger

theorem unclaimed (h : Ledger owner drawn w (p :: others)) (new : fresh ∉ drawn) :
    ∀ q ∈ others, q.claim? ≠ some fresh :=
  fun q hq taken => new (h.claimed q (.tail _ hq) fresh taken)

theorem unstored (h : Ledger owner drawn w (p :: others)) (new : fresh ∉ drawn) :
    w.record? fresh = none := by
  cases stored : w.record? fresh with
  | none => rfl
  | some e => exact absurd (h.books.stored stored).2.1 new

/-- Of a workflow that is nobody's there is no record. -/
theorem uncompleted (h : Ledger owner drawn w (p :: others)) {i : String}
    (nobody : owner i = none) :
    completions w.memory i = 0 := by
  refine Memory.completions_eq_zero ?_
  rintro id e stored rfl
  rw [(h.books.record stored).2.2] at nobody
  cases nobody

theorem unowed (h : Ledger owner drawn w (p :: others)) {i : String} (nobody : owner i = none) :
    (p :: others).countP (Phase.owes i) = 0 := by
  rw [List.countP_eq_zero]
  intro q hq owes
  cases q with
  | stored d k =>
      obtain rfl : d.workflow = i := by
        simp only [Phase.owes, isCompletionOf, Bool.and_eq_true, beq_iff_eq] at owes
        exact owes.1
      rw [(h.books.stored (h.holds _ hq).2.1).2.2] at nobody
      cases nobody
  | _ => cases owes

theorem quiet (h : Ledger owner drawn w (p :: others)) (new : fresh ∉ drawn)
    (records : ∀ id, w'.record? id = w.record? id) (tickets : ∀ id, w'.ticket? id = w.ticket? id)
    (books : Books owner (fresh :: drawn) w')
    (claim : ∀ id, p'.claim? = some id → p.claim? = some id ∨ id = fresh)
    (lost : p'.lost? = p.lost?) (works : ∀ id, p.works? = some id → p'.works? = some id)
    (holds : p'.Holds owner w (Lost (p :: others)))
    (counts : ∀ {i v}, w'.memory.workflows.get? i = some v →
      v.runCount + (p' :: others).countP (Phase.owes i) = completions w'.memory i) :
    Ledger owner (fresh :: drawn) w' (p' :: others) := by
  refine h.step (x := fresh) new (concerns_nothing records tickets)
    (fun q hq taken => absurd taken (h.unclaimed new q hq)) books claim
    (fun id left => lost ▸ left) ?_ ?_ counts
  · rw [Phase.lost_cons lost]
    exact holds.congr records tickets
  · rintro id e stored - (rfl | busy)
    · rw [records, h.unstored new] at stored
      cases stored
    · exact ⟨p', List.mem_cons_self, works id busy⟩

/-- A call after which the world is as before. -/
theorem look (h : Ledger owner drawn w (p :: others)) (new : fresh ∉ drawn)
    (claim : ∀ id, p'.claim? = some id → p.claim? = some id ∨ id = fresh)
    (lost : p'.lost? = p.lost?) (works : ∀ id, p.works? = some id → p'.works? = some id)
    (owes : ∀ i, p'.owes i = p.owes i) (holds : p'.Holds owner w (Lost (p :: others))) :
    Ledger owner (fresh :: drawn) w (p' :: others) := by
  refine h.quiet new (fun _ => rfl) (fun _ => rfl) (h.books.widen fresh) claim lost works holds ?_
  intro i v found
  have counted := h.counts found
  rw [List.countP_cons] at counted ⊢
  rw [owes]
  exact counted

/-- Workflows were changed or deleted. -/
theorem revised (h : Ledger owner drawn w (p :: others)) (new : fresh ∉ drawn)
    (revises : w.memory.Revises m) :
    Ledger owner (fresh :: drawn) { w with memory := m } (p :: others) := by
  have executions : m.executions = w.memory.executions := by
    cases revises <;> rfl
  have records (id : String) : World.record? { w with memory := m } id = w.record? id :=
    congrArg (·.get? id) executions
  have kept {i v} (found : m.workflows.get? i = some v) :
      (v.id = some i ∧ owner i = some v.tenant) ∧
        v.runCount + (p :: others).countP (Phase.owes i) = completions w.memory i := by
    cases revises with
    | same => exact ⟨h.books.workflow found, h.counts found⟩
    | @replaced j w₀ v₀ stored named tenants count =>
        rw [Keyed.get?_put] at found
        split at found
        · next here =>
          cases found
          subst here
          refine ⟨⟨named, ?_⟩, ?_⟩
          · rw [tenants]
            exact (h.books.workflow stored).2
          · rw [count]
            exact h.counts stored
        · exact ⟨h.books.workflow found, h.counts found⟩
    | erased j =>
        rw [Keyed.get?_erase] at found
        split at found
        · cases found
        · exact ⟨h.books.workflow found, h.counts found⟩
  have books := h.books.widen fresh
  refine h.quiet new records (fun _ => rfl) ?_ (fun _ => .inl) rfl (fun _ => id)
    (h.holds p List.mem_cons_self) ?_
  · exact { books with
      workflow := fun found => (kept found).1
      record := fun stored => books.record (executions ▸ stored) }
  · intro i v found
    rw [completions, executions]
    exact (kept found).2

/-- A new workflow, under an id that is nobody's. -/
theorem created (h : Ledger owner drawn w (p :: others)) (new : fresh ∉ drawn)
    (apart : ∀ q ∈ others, q.claim? ≠ some x) (records : w.record? x = none)
    (tickets : w.ticket? x = none) (nobody : owner x = none) (taken : x = fresh ∨ x ∈ drawn)
    (named : v.id = some x) (uncounted : v.runCount = 0) (early : p'.Early)
    (holds : p'.Holds owner w (Lost (p :: others))) (lost : p.lost? = none)
    (works : p.works? = none) (owes : ∀ i, p.owes i = false) :
    ∃ owner', Ledger owner' (fresh :: drawn) (w.withWorkflow x v) (p' :: others) := by
  have claims : p'.claim? = none := by cases early <;> rfl
  have lost' : p'.lost? = none := by cases early <;> rfl
  have owes' (i : String) : p'.owes i = false := by cases early <;> rfl
  have concerns : Concerns x owner (giving owner x v.tenant) w (w.withWorkflow x v)
      (Lost (p' :: others)) :=
    { record_ne := fun _ => rfl
      ticket_ne := fun _ => rfl
      owner_ne := fun other => if_neg other
      owner := fun mine => by cases nobody.symm.trans mine
      record := fun stored => by cases records.symm.trans stored
      ticket := .inl }
  refine ⟨_, h.step new concerns (fun q hq taken => absurd taken (apart q hq))
    (h.books.withWorkflow nobody taken named) ?_ ?_ ?_ ?_ ?_⟩
  · rw [claims]
    exact nofun
  · rw [lost]
    exact nofun
  · have same : Lost (p' :: others) = Lost (p :: others) :=
      Phase.lost_cons (lost'.trans lost.symm)
    rw [same] at concerns ⊢
    refine concerns.holds (fun _ => id) ?_ holds
    rw [claims]
    exact nofun
  · rintro id e stored - (rfl | busy)
    · cases records.symm.trans stored
    · cases works.symm.trans busy
  · intro i u found
    have unowed : (p' :: others).countP (Phase.owes i) = (p :: others).countP (Phase.owes i) := by
      simp only [List.countP_cons, owes, owes']
    rw [unowed]
    show u.runCount + _ = ((completions w.memory i : Nat) : Int)
    rw [World.withWorkflow, Keyed.get?_put] at found
    split at found
    · next here =>
      cases found
      subst here
      rw [uncounted, h.unowed nobody, h.uncompleted nobody]
      rfl
    · exact h.counts found

end Ledger

def World.withRecord (w : World) (e : Execution) : World :=
  { w with memory := { w.memory with executions := w.memory.executions.put e.id e } }

theorem record?_withRecord :
    (w.withRecord e).record? id = if id = e.id then some e else w.record? id :=
  Keyed.get?_put ..

theorem Books.withRecord (h : Books owner drawn w) (mine : owner e.workflow = some e.tenant)
    (known : e.id ∈ drawn) : Books owner (fresh :: drawn) (w.withRecord e) where
  workflow := h.workflow
  owned mine := .tail _ (h.owned mine)
  record stored := by
    obtain new | old := Keyed.mem_put stored
    · cases new
      exact ⟨rfl, .tail _ known, mine⟩
    · obtain ⟨same, known, mine⟩ := h.record old
      exact ⟨same, .tail _ known, mine⟩
  ticket held := ⟨.tail _ (h.ticket held).1, (h.ticket held).2⟩
  distinct := h.distinct

theorem concerns_record
    (before : ∀ l, w.record? e.id = some l → l.isFinished = false ∧ l.tenant = e.tenant) :
    Concerns e.id owner owner w (w.withRecord e) lost where
  record_ne other := record?_withRecord.trans (if_neg other)
  ticket_ne _ := rfl
  owner_ne _ := rfl
  owner h := h
  record stored := by
    obtain ⟨running, tenants⟩ := before _ stored
    refine ⟨e, record?_withRecord.trans (if_pos rfl), tenants.symm, fun finished => ?_⟩
    cases running.symm.trans finished
  ticket := .inl

namespace Ledger

/-- A record was stored, as a new one or in place of a running one. -/
theorem recorded (h : Ledger owner drawn w (p :: others)) (new : fresh ∉ drawn)
    (apart : ∀ q ∈ others, q.claim? = some e.id → q.lost? = some e.id)
    (before : ∀ l, w.record? e.id = some l → l.isFinished = false ∧ l.tenant = e.tenant)
    (mine : owner e.workflow = some e.tenant) (known : e.id ∈ drawn)
    (claim : ∀ id, p'.claim? = some id → p.claim? = some id) (lost : p'.lost? = p.lost?)
    (busy : ∀ id, p.works? = some id → id = e.id)
    (works : e.isFinished = false → p'.works? = some e.id) (owed : ∀ i, p.owes i = false)
    (owes : ∀ i, p'.owes i = isCompletionOf i e)
    (holds : p'.Holds owner (w.withRecord e) (Lost (p :: others))) :
    Ledger owner (fresh :: drawn) (w.withRecord e) (p' :: others) := by
  refine h.step new (concerns_record before) apart (h.books.withRecord mine known)
    (fun id hid => .inl (claim id hid)) (fun id left => lost ▸ left) ?_ ?_ ?_
  · rw [Phase.lost_cons lost]
    exact holds
  · intro id l stored running here
    obtain rfl : id = e.id := here.elim (·) (busy id)
    rw [record?_withRecord, if_pos rfl] at stored
    cases stored
    exact ⟨p', List.mem_cons_self, works running⟩
  · intro i v found
    have counted := h.counts found
    have put : completions (w.withRecord e).memory i =
        completions w.memory i + if isCompletionOf i e then 1 else 0 :=
      Memory.completions_put fun l stored => (before l stored).1
    rw [List.countP_cons, owed, if_neg Bool.false_ne_true] at counted
    rw [List.countP_cons, owes, put]
    omega

end Ledger

def World.withRuns (w : World) (r : Runs) : World := { w with runs := r }

theorem isFinished_append {r : Runs} (given : k < r.marks.length)
    (unfinished : r.isFinished k = false) (marks : List Mark) (active : Keyed Ticket) :
    Runs.isFinished ⟨active, r.marks ++ marks⟩ k = false := by
  rw [Runs.isFinished, List.getElem?_append_left given]
  exact unfinished

theorem isFinished_modify {r : Runs} {j : Ticket} {f : Mark → Mark} (apart : j ≠ k)
    (active : Keyed Ticket) :
    Runs.isFinished ⟨active, r.marks.modify j f⟩ k = r.isFinished k := by
  simp [Runs.isFinished, apart]

theorem Books.register (h : Books owner drawn w) (known : id ∈ drawn) :
    Books owner (fresh :: drawn) (w.withRuns (w.runs.register id).2) := by
  have tickets {j : String} : (w.withRuns (w.runs.register id).2).ticket? j =
      if j = id then some w.runs.marks.length else w.ticket? j := Runs.ticket?_register
  refine { h.widen fresh with ticket := ?_, distinct := ?_ }
  · intro j k held
    rw [tickets] at held
    split at held
    · next here =>
      cases held
      refine ⟨here ▸ .tail _ known, ?_, ?_⟩
      · simp [World.withRuns, Runs.register]
      · simp [World.withRuns, Runs.register, Runs.isFinished]
    · obtain ⟨known, given, unfinished⟩ := h.ticket held
      refine ⟨.tail _ known, ?_, isFinished_append given unfinished _ _⟩
      simp only [World.withRuns, Runs.register, List.length_append]
      exact Nat.lt_add_right _ given
  · intro i j k first second
    rw [tickets] at first second
    split at first
    · next here =>
      cases first
      split at second
      · next there => rw [here, there]
      · exact absurd (h.ticket second).2.1 (Nat.lt_irrefl _)
    · split at second
      · cases second
        exact absurd (h.ticket first).2.1 (Nat.lt_irrefl _)
      · exact h.distinct first second

theorem Books.release (h : Books owner drawn w) (held : w.ticket? id = some k) :
    Books owner (fresh :: drawn) (w.withRuns (w.runs.release id k)) := by
  have tickets {j : String} : (w.withRuns (w.runs.release id k)).ticket? j =
      if j = id then none else w.ticket? j := Runs.ticket?_release
  refine { h.widen fresh with ticket := ?_, distinct := ?_ }
  · intro j l other
    rw [tickets] at other
    split at other
    · cases other
    next apart =>
    obtain ⟨known, given, unfinished⟩ := h.ticket other
    have tickets : k ≠ l := by
      rintro rfl
      exact apart (h.distinct other held)
    refine ⟨.tail _ known, ?_, ?_⟩
    · simpa [World.withRuns, Runs.release] using given
    · exact (isFinished_modify tickets _).trans unfinished
  · intro i j l first second
    rw [tickets] at first second
    split at first
    · cases first
    · split at second
      · cases second
      · exact h.distinct first second

theorem isFinished_requestCancel {r : Runs} :
    (r.requestCancel id).2.isFinished k = r.isFinished k := by
  unfold Runs.requestCancel
  split
  · next j _ =>
    by_cases same : j = k
    · subst same
      simp only [Runs.isFinished, List.getElem?_modify_eq]
      cases r.marks[j]? <;> rfl
    · exact isFinished_modify same _
  · rfl

theorem Books.requestCancel (h : Books owner drawn w) :
    Books owner (fresh :: drawn) (w.withRuns (w.runs.requestCancel id).2) := by
  have tickets {j : String} : (w.withRuns (w.runs.requestCancel id).2).ticket? j = w.ticket? j :=
    Runs.ticket?_requestCancel
  refine { h.widen fresh with ticket := ?_, distinct := ?_ }
  · intro j k held
    rw [tickets] at held
    obtain ⟨known, given, unfinished⟩ := h.ticket held
    refine ⟨.tail _ known, ?_, isFinished_requestCancel.trans unfinished⟩
    exact (Runs.Holds.requestCancel ⟨held, given⟩).given
  · intro i j k first second
    rw [tickets] at first second
    exact h.distinct first second

namespace Ledger

theorem registered (h : Ledger owner drawn w (.saved v e :: others)) (new : fresh ∉ drawn) :
    Ledger owner (fresh :: drawn) (w.withRuns (w.runs.register e.id).2) (.ready v e :: others) := by
  obtain ⟨unfinished, stored, none⟩ := h.holds _ List.mem_cons_self
  have own := (claims_cons.mp h.claims).2 e.id rfl
  have tickets {j : String} : (w.withRuns (w.runs.register e.id).2).ticket? j =
      if j = e.id then some w.runs.marks.length else w.ticket? j := Runs.ticket?_register
  have concerns : Concerns e.id owner owner w (w.withRuns (w.runs.register e.id).2)
      (Lost (.ready v e :: others)) :=
    { record_ne := fun _ => rfl
      ticket_ne := fun other => tickets.trans (if_neg other)
      owner_ne := fun _ => rfl
      owner := id
      record := fun stored => ⟨_, stored, rfl, fun _ => rfl⟩
      ticket := fun held => by cases none.symm.trans held }
  refine h.step new concerns (fun q hq taken => absurd taken (own q hq))
    (h.books.register (h.claimed _ List.mem_cons_self _ rfl)) (fun _ => .inl) (fun _ => id)
    ⟨Execution.isFinished_eq_false.mp unfinished, stored, _, tickets.trans (if_pos rfl)⟩ ?_ ?_
  · rintro id l - - (rfl | busy)
    · exact ⟨_, List.mem_cons_self, rfl⟩
    · exact ⟨_, List.mem_cons_self, busy⟩
  · intro i v found
    exact h.counts found

/-- A ticket was given back, by a run whose end is stored or which was taken down. -/
theorem released (h : Ledger owner drawn w (p :: others)) (new : fresh ∉ drawn)
    (own : p.claim? = some x) (held : w.ticket? x = some k)
    (gone : (∃ e, w.record? x = some e ∧ e.isFinished = true) ∨ p'.lost? = some x)
    (claim : ∀ id, p'.claim? = some id → p.claim? = some id)
    (lost : ∀ id, p.lost? = some id → p'.lost? = some id)
    (works : ∀ id, p.works? = some id → p'.works? = some id)
    (owed : ∀ i, p.owes i = false) (owes : ∀ i, p'.owes i = false)
    (holds : p'.Holds owner (w.withRuns (w.runs.release x k)) (Lost (p' :: others))) :
    Ledger owner (fresh :: drawn) (w.withRuns (w.runs.release x k)) (p' :: others) := by
  have alone := (claims_cons.mp h.claims).2 x own
  have concerns : Concerns x owner owner w (w.withRuns (w.runs.release x k))
      (Lost (p' :: others)) :=
    { record_ne := fun _ => rfl
      ticket_ne := fun other => Runs.ticket?_release.trans (if_neg other)
      owner_ne := fun _ => rfl
      owner := id
      record := fun stored => ⟨_, stored, rfl, fun _ => rfl⟩
      ticket := fun _ => .inr (gone.imp_right fun left => ⟨p', List.mem_cons_self, left⟩) }
  refine h.step new concerns (fun q hq taken => absurd taken (alone q hq)) (h.books.release held)
    (fun id hid => .inl (claim id hid)) lost holds ?_ ?_
  · intro id e stored running here
    obtain rfl | busy := here
    · obtain ⟨q, hq, busy⟩ := h.worked stored running
      obtain rfl | hq := List.mem_cons.mp hq
      · exact ⟨p', List.mem_cons_self, works _ busy⟩
      · exact ⟨q, .tail _ hq, busy⟩
    · exact ⟨p', List.mem_cons_self, works id busy⟩
  · intro i v found
    have counted := h.counts found
    rw [List.countP_cons, owed] at counted
    rw [List.countP_cons, owes]
    exact counted

end Ledger
end TriggerFlow.Server
