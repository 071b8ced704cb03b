import TriggerFlow.Proofs.Run.Registry
import TriggerFlow.Proofs.Server.Conduct
import TriggerFlow.Proofs.Store.Statistics

/-!
The account that a service keeps of its records. Every running record is at work in one task, or a
run left it behind; a ticket belongs to one record whose end is not stored yet, or was just stored;
and the count of a workflow falls short of its completed records by the runs that have stored
their end and not counted it.
-/

namespace TriggerFlow.Server

open Engine
open Store.Memory (completions isCompletionOf)

namespace Phase

/-- The id that a task uses for a record and that no other task does. -/
def claim? : Phase → Option String
  | drew _ id => some id
  | saved _ e | ready _ e | running _ e _ _ | aborted _ e _ => some e.id
  | stored d _ | counted d _ => some d.id
  | _ => none

/-- The record that a run which was taken down left behind. -/
def lost? : Phase → Option String
  | aborted _ e _ => some e.id
  | _ => none

/-- The record whose end is still to be stored by a task, or was not stored by it. -/
def works? : Phase → Option String
  | saved _ e | ready _ e | running _ e _ _ | aborted _ e _ => some e.id
  | _ => none

def isNew : Phase → Bool
  | saved _ _ => true
  | _ => false

/-- Whether the task is about to count a completion of this workflow. -/
def owes (workflow : String) : Phase → Bool
  | stored d _ => isCompletionOf workflow d
  | _ => false

end Phase

def Lost (ps : List Phase) (id : String) : Prop := ∃ p ∈ ps, p.lost? = some id

/-- No run of the record is left: it is finished, or was left behind. -/
def Over (w : World) (lost : String → Prop) (id : String) : Prop :=
  (∃ e, w.record? id = some e ∧ e.isFinished = true) ∨ lost id

def Known (w : World) (id tenant : String) : Prop :=
  ∃ e, w.record? id = some e ∧ e.tenant = tenant

def Owned (owner : String → Option String) (v : Workflow) : Prop :=
  ∃ i, v.id = some i ∧ owner i = some v.tenant

/-- What is true of the world while a task is in a phase. -/
def Phase.Holds (owner : String → Option String) (w : World) (lost : String → Prop) : Phase → Prop
  | loaded v => Owned owner v
  | drew v id => Owned owner v ∧ w.record? id = none ∧ w.ticket? id = none ∧ owner id = none
  | saved _ e => e.isFinished = false ∧ w.record? e.id = some e ∧ w.ticket? e.id = none
  | ready _ e => e.status = .running ∧ w.record? e.id = some e ∧ ∃ k, w.ticket? e.id = some k
  | running _ e k _ => e.status = .running ∧
    (∃ l, w.record? e.id = some l ∧ OnlySteps e l) ∧ w.ticket? e.id = some k
  | stored d k | counted d k => d.isFinished = true ∧ w.record? d.id = some d ∧
    w.ticket? d.id = some k
  | released d => d.isFinished = true ∧ w.record? d.id = some d
  | found id tenant => Known w id tenant
  | asked id tenant => Known w id tenant ∧ (Over w lost id ∨ ∃ k, w.ticket? id = some k)
  | waiting id tenant k => Known w id tenant ∧ (Over w lost id ∨ w.ticket? id = some k)
  | gone id tenant => Known w id tenant ∧ Over w lost id
  | seen id e => e.isFinished = true ∧ w.record? id = some e
  | refused id => ∃ e, w.record? id = some e ∧ e.isFinished = true
  | stranded id => lost id
  | idle | aborted _ _ _ | handed _ => True

/-- What the store and the registry hold by themselves. Ids of workflows are never given to another
tenant. -/
structure Books (owner : String → Option String) (drawn : List String) (w : World) : Prop where
  workflow : ∀ {i v}, w.memory.workflows.get? i = some v → v.id = some i ∧ owner i = some v.tenant
  owned : ∀ {i tenant}, owner i = some tenant → i ∈ drawn
  record : ∀ {id e}, (id, e) ∈ w.memory.executions →
    e.id = id ∧ id ∈ drawn ∧ owner e.workflow = some e.tenant
  ticket : ∀ {id k}, w.ticket? id = some k →
    id ∈ drawn ∧ k < w.runs.marks.length ∧ w.runs.isFinished k = false
  distinct : ∀ {id other k}, w.ticket? id = some k → w.ticket? other = some k → id = other

theorem Books.stored {owner : String → Option String} {drawn : List String} {w : World}
    (h : Books owner drawn w) {id : String} {e : Execution} (stored : w.record? id = some e) :
    e.id = id ∧ id ∈ drawn ∧ owner e.workflow = some e.tenant :=
  h.record (Keyed.mem_of_get? stored)

structure Ledger (owner : String → Option String) (drawn : List String) (w : World)
    (ps : List Phase) : Prop where
  books : Books owner drawn w
  claims : (ps.filterMap Phase.claim?).Nodup
  claimed : ∀ p ∈ ps, ∀ id, p.claim? = some id → id ∈ drawn
  holds : ∀ p ∈ ps, p.Holds owner w (Lost ps)
  worked : ∀ {id e}, w.record? id = some e → e.isFinished = false → ∃ p ∈ ps, p.works? = some id
  counts : ∀ {i v}, w.memory.workflows.get? i = some v →
    v.runCount + ps.countP (Phase.owes i) = completions w.memory i

/-- A change that concerns one id. Whose it is stays so, a record that is there stays, and as it is
if it is finished, and a ticket is only given back for a run that is over. -/
structure Concerns (x : String) (owner owner' : String → Option String) (w w' : World)
    (lost' : String → Prop) : Prop where
  record_ne : ∀ {id}, id ≠ x → w'.record? id = w.record? id
  ticket_ne : ∀ {id}, id ≠ x → w'.ticket? id = w.ticket? id
  owner_ne : ∀ {id}, id ≠ x → owner' id = owner id
  owner : ∀ {tenant}, owner x = some tenant → owner' x = some tenant
  record : ∀ {e}, w.record? x = some e →
    ∃ e', w'.record? x = some e' ∧ e'.tenant = e.tenant ∧ (e.isFinished = true → e' = e)
  ticket : ∀ {k}, w.ticket? x = some k → w'.ticket? x = some k ∨ Over w' lost' x

variable {x id tenant fresh : String} {owner owner' : String → Option String} {w w' : World}
  {lost lost' : String → Prop} {drawn : List String} {p p' q : Phase} {ps qs others : List Phase}
  {e : Execution} {k : Ticket}

namespace Concerns

theorem owned (c : Concerns x owner owner' w w' lost') {v : Workflow} (h : Owned owner v) :
    Owned owner' v := by
  obtain ⟨i, named, mine⟩ := h
  refine ⟨i, named, ?_⟩
  by_cases same : i = x
  · subst same
    exact c.owner mine
  · rw [c.owner_ne same, mine]

theorem record' (c : Concerns x owner owner' w w' lost') (h : w.record? id = some e) :
    ∃ e', w'.record? id = some e' ∧ e'.tenant = e.tenant ∧ (e.isFinished = true → e' = e) := by
  by_cases same : id = x
  · subst same
    exact c.record h
  · exact ⟨e, by rw [c.record_ne same, h], rfl, fun _ => rfl⟩

theorem known (c : Concerns x owner owner' w w' lost') (h : Known w id tenant) :
    Known w' id tenant := by
  obtain ⟨e, stored, mine⟩ := h
  obtain ⟨e', stored', tenants, -⟩ := c.record' stored
  exact ⟨e', stored', tenants.trans mine⟩

theorem finished (c : Concerns x owner owner' w w' lost') (h : w.record? id = some e)
    (finished : e.isFinished = true) : w'.record? id = some e := by
  obtain ⟨e', stored', -, same⟩ := c.record' h
  rw [stored', same finished]

theorem gone (c : Concerns x owner owner' w w' lost') (mono : ∀ id, lost id → lost' id)
    (h : Over w lost id) : Over w' lost' id := by
  obtain ⟨e, stored, finished⟩ | left := h
  · exact .inl ⟨e, c.finished stored finished, finished⟩
  · exact .inr (mono id left)

theorem ticket' (c : Concerns x owner owner' w w' lost') (h : w.ticket? id = some k) :
    w'.ticket? id = some k ∨ Over w' lost' id := by
  by_cases same : id = x
  · subst same
    exact c.ticket h
  · exact .inl (by rw [c.ticket_ne same, h])

theorem holds (c : Concerns x owner owner' w w' lost') (mono : ∀ id, lost id → lost' id)
    (apart : q.claim? = some x → q.lost? = some x) (h : q.Holds owner w lost) :
    q.Holds owner' w' lost' := by
  have own {id : String} (claim : q.claim? = some id) (here : q.lost? = none) : id ≠ x := by
    rintro rfl
    rw [apart claim] at here
    cases here
  cases q with
  | idle | aborted | handed => trivial
  | loaded v => exact c.owned h
  | drew v id =>
      have other := own rfl rfl
      refine ⟨c.owned h.1, ?_⟩
      rw [c.record_ne other, c.ticket_ne other, c.owner_ne other]
      exact h.2
  | saved _ e | ready _ e | running _ e =>
      have other := own rfl rfl
      simp only [Phase.Holds, c.record_ne other, c.ticket_ne other]
      exact h
  | stored d | counted d =>
      have other := own rfl rfl
      simp only [Phase.Holds, c.record_ne other, c.ticket_ne other]
      exact h
  | released d => exact ⟨h.1, c.finished h.2 h.1⟩
  | found => exact c.known h
  | asked id =>
      refine ⟨c.known h.1, ?_⟩
      obtain gone | ⟨k, ticket⟩ := h.2
      · exact .inl (c.gone mono gone)
      · exact (c.ticket' ticket).symm.imp_right fun ticket => ⟨k, ticket⟩
  | waiting id _ k =>
      refine ⟨c.known h.1, ?_⟩
      obtain gone | ticket := h.2
      · exact .inl (c.gone mono gone)
      · exact (c.ticket' ticket).symm
  | gone => exact ⟨c.known h.1, c.gone mono h.2⟩
  | seen => exact ⟨h.1, c.finished h.2 h.1⟩
  | refused id =>
      obtain ⟨e, stored, finished⟩ := h
      exact ⟨e, c.finished stored finished, finished⟩
  | stranded id => exact mono id h

end Concerns

theorem lost_congr (perm : ps.Perm qs) : Lost ps = Lost qs := by
  funext id
  exact propext ⟨fun ⟨p, hp, lost⟩ => ⟨p, perm.mem_iff.mp hp, lost⟩,
    fun ⟨p, hp, lost⟩ => ⟨p, perm.mem_iff.mpr hp, lost⟩⟩

theorem Ledger.perm (h : Ledger owner drawn w ps) (perm : ps.Perm qs) :
    Ledger owner drawn w qs where
  books := h.books
  claims := (perm.filterMap Phase.claim?).nodup_iff.mp h.claims
  claimed p hp := h.claimed p (perm.mem_iff.mpr hp)
  holds p hp := lost_congr perm ▸ h.holds p (perm.mem_iff.mpr hp)
  worked stored running := by
    obtain ⟨p, hp, works⟩ := h.worked stored running
    exact ⟨p, perm.mem_iff.mp hp, works⟩
  counts found := by
    rw [← perm.countP_eq]
    exact h.counts found

theorem lost_mono (h : ∀ id, p.lost? = some id → p'.lost? = some id) (id : String)
    (lost : Lost (p :: others) id) : Lost (p' :: others) id := by
  obtain ⟨q, hq, lost⟩ := lost
  obtain rfl | hq := List.mem_cons.mp hq
  · exact ⟨p', List.mem_cons_self, h id lost⟩
  · exact ⟨q, .tail _ hq, lost⟩

theorem claims_cons : ((p :: ps).filterMap Phase.claim?).Nodup ↔
    (ps.filterMap Phase.claim?).Nodup ∧
      ∀ id, p.claim? = some id → ∀ q ∈ ps, q.claim? ≠ some id := by
  cases claim : p.claim? with
  | none =>
      rw [List.filterMap_cons_none claim]
      exact (and_iff_left nofun).symm
  | some id =>
      rw [List.filterMap_cons_some claim, List.nodup_cons, and_comm]
      refine and_congr_right' ⟨?_, ?_⟩
      · rintro new _ ⟨⟩ q hq taken
        exact new (List.mem_filterMap.mpr ⟨q, hq, taken⟩)
      · intro apart taken
        obtain ⟨q, hq, taken⟩ := List.mem_filterMap.mp taken
        exact apart id rfl q hq taken

theorem Ledger.step (h : Ledger owner drawn w (p :: others)) (new : fresh ∉ drawn)
    (concerns : Concerns x owner owner' w w' (Lost (p' :: others)))
    (apart : ∀ q ∈ others, q.claim? = some x → q.lost? = some x)
    (books : Books owner' (fresh :: drawn) w')
    (claim : ∀ id, p'.claim? = some id → p.claim? = some id ∨ id = fresh)
    (lost : ∀ id, p.lost? = some id → p'.lost? = some id)
    (holds : p'.Holds owner' w' (Lost (p' :: others)))
    (worked : ∀ {id e}, w'.record? id = some e → e.isFinished = false →
      id = x ∨ p.works? = some id → ∃ q ∈ p' :: others, q.works? = some id)
    (counts : ∀ {i v}, w'.memory.workflows.get? i = some v →
      v.runCount + (p' :: others).countP (Phase.owes i) = completions w'.memory i) :
    Ledger owner' (fresh :: drawn) w' (p' :: others) where
  books := books
  claims := by
    obtain ⟨rest, own⟩ := claims_cons.mp h.claims
    refine claims_cons.mpr ⟨rest, fun id hid q hq taken => ?_⟩
    obtain old | rfl := claim id hid
    · exact own id old q hq taken
    · exact new (h.claimed q (.tail _ hq) _ taken)
  claimed := by
    rw [List.forall_mem_cons]
    refine ⟨fun id hid => ?_, fun q hq id hid => .tail _ (h.claimed q (.tail _ hq) id hid)⟩
    obtain old | rfl := claim id hid
    · exact .tail _ (h.claimed p List.mem_cons_self id old)
    · exact List.mem_cons_self
  holds := by
    rw [List.forall_mem_cons]
    exact ⟨holds, fun q hq =>
      concerns.holds (lost_mono lost) (apart q hq) (h.holds q (.tail _ hq))⟩
  worked := by
    intro id e stored running
    by_cases here : id = x ∨ p.works? = some id
    · exact worked stored running here
    · rw [not_or] at here
      rw [concerns.record_ne here.1] at stored
      obtain ⟨q, hq, works⟩ := h.worked stored running
      obtain rfl | hq := List.mem_cons.mp hq
      · exact absurd works here.2
      · exact ⟨q, .tail _ hq, works⟩
  counts := counts

end TriggerFlow.Server
