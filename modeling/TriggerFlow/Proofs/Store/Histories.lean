import TriggerFlow.Proofs.Exchange
import TriggerFlow.Proofs.Store.Shares

/-!
Histories of a store in memory: what it is asked, call after call, and what it replies. What stands
under an id is changed by a creation, an update, a deletion and a count of its own, and by no other
call; what is stored nowhere is found by none.
-/

namespace TriggerFlow

theorem Keyed.get?_of_mem {α : Type} {m : Keyed α} {k : String} {a : α} (distinct : m.Distinct)
    (h : (k, a) ∈ m) : m.get? k = some a := by
  induction m with
  | nil => cases h
  | cons e m ih =>
      obtain ⟨new, rest⟩ := List.nodup_cons.mp distinct
      obtain rfl | h := List.mem_cons.mp h
      · exact (get?_cons ..).trans (if_pos rfl)
      · have apart : k ≠ e.1 := fun same => new (List.mem_map.mpr ⟨(k, a), h, same⟩)
        exact ((get?_cons ..).trans (if_neg apart)).trans (ih rest h)

namespace Store

abbrev Exchange := Program.Exchange Reply

def Creates (id : String) : Exchange → Prop
  | ⟨.createWorkflow _, .ok v⟩ => Workflow.id v = some id
  | _ => False

instance (id : String) : (x : Exchange) → Decidable (Creates id x)
  | ⟨.createWorkflow _, .ok v⟩ => decEq (Workflow.id v) (some id)
  | ⟨.createWorkflow _, .error _⟩ | ⟨.getWorkflow _ _, _⟩ | ⟨.listWorkflows _ _ _, _⟩
  | ⟨.updateWorkflow _, _⟩ | ⟨.deleteWorkflow _ _, _⟩ | ⟨.incrementRunCount _ _ _, _⟩
  | ⟨.saveExecution _, _⟩ | ⟨.markCancelled _ _ _, _⟩ | ⟨.getExecution _ _, _⟩
  | ⟨.listExecutions _ _ _, _⟩ => .isFalse not_false

def Deletes (id : String) : Exchange → Prop
  | ⟨.deleteWorkflow i _, .ok deleted⟩ => i = id ∧ deleted = true
  | _ => False

instance (id : String) : (x : Exchange) → Decidable (Deletes id x)
  | ⟨.deleteWorkflow i _, .ok deleted⟩ =>
    @instDecidableAnd _ _ (decEq i id) (Bool.decEq deleted true)
  | ⟨.deleteWorkflow _ _, .error _⟩ | ⟨.createWorkflow _, _⟩ | ⟨.getWorkflow _ _, _⟩
  | ⟨.listWorkflows _ _ _, _⟩ | ⟨.updateWorkflow _, _⟩ | ⟨.incrementRunCount _ _ _, _⟩
  | ⟨.saveExecution _, _⟩ | ⟨.markCancelled _ _ _, _⟩ | ⟨.getExecution _ _, _⟩
  | ⟨.listExecutions _ _ _, _⟩ => .isFalse not_false

def Lists (id : String) (found : List Workflow) : Prop := ∃ w ∈ found, w.id = some id

/-- The reply shows a workflow of this id, or could only be given for one. -/
def Finds (id : String) : Exchange → Prop
  | ⟨.getWorkflow i _, .ok found⟩ => ∃ w, found = some w ∧ (i = id ∨ w.id = some id)
  | ⟨.listWorkflows _ _ _, .ok found⟩ => Lists id found
  | ⟨.updateWorkflow w, .ok stored⟩ => w.id = some id ∨ Workflow.id stored = some id
  | ⟨.deleteWorkflow i _, .ok deleted⟩ => i = id ∧ deleted = true
  | _ => False

/-- The moment of a run that is counted for this id and this tenant. -/
def count? (id tenant : String) : Exchange → Option Moment
  | ⟨.incrementRunCount (some i) owner finish, _⟩ =>
    if i = id ∧ owner = tenant then some finish else none
  | _ => none

namespace Memory

variable {m m' : Memory} {t : List Exchange} {w v : Workflow} {id : String}

/-- `m.Serves t m'`: asked the calls of `t` one after the other, whatever the clock says and
whichever ids are drawn, the store gives these replies and goes from `m` to `m'`. -/
inductive Serves (m : Memory) : List Exchange → Memory → Prop
  | nil : Serves m [] m
  | ask {t : List Exchange} {m' : Memory} (h : Serves m t m') (s : Sources) (c : Call) :
      Serves m (t ++ [⟨c, (m'.answer s c).1⟩]) (m'.answer s c).2.1

/-- What holds at the start and is kept by every call holds after all calls. -/
theorem Serves.preserves {P : List Exchange → Memory → Prop} (h : m.Serves t m') (start : P [] m)
    (ask : ∀ {t m'} (time : Moment) (fresh : String) (c : Call), P t m' →
      P (t ++ [⟨c, (m'.reply time fresh c).1⟩]) (m'.reply time fresh c).2) : P t m' := by
  induction h with
  | nil => exact start
  | @ask t m' _ s c ih =>
      obtain ⟨time, fresh, replied, stored⟩ := exists_answer_eq_reply m' s c
      rw [replied, stored]
      exact ask time fresh c ih

theorem Serves.cons {s : Sources} {c : Call} (h : (m.answer s c).2.1.Serves t m') :
    m.Serves (⟨c, (m.answer s c).1⟩ :: t) m' := by
  induction h with
  | nil => exact .ask .nil s c
  | ask _ s' c' ih => exact .ask ih s' c'

/-- What a store replies to calls when one clock goes on and one supply of ids is drawn from. -/
def transcript (m : Memory) (s : Sources) : List Call → List Exchange × Memory
  | [] => ([], m)
  | c :: calls =>
    let (t, last) := transcript (m.answer s c).2.1 (m.answer s c).2.2 calls
    (⟨c, (m.answer s c).1⟩ :: t, last)

theorem serves_transcript (m : Memory) (s : Sources) (calls : List Call) :
    m.Serves (m.transcript s calls).1 (m.transcript s calls).2 := by
  induction calls generalizing m s with
  | nil => exact .nil
  | cons c calls ih => exact .cons (ih _ _)

def created (w : Workflow) (id : String) (time : Moment) : Workflow :=
  { w with id := some id, createdAt := some time, updatedAt := some time }

/-- What an update keeps of the workflow that it replaces. -/
structure KeepsStanding (v w : Workflow) : Prop where
  tenant : v.tenant = w.tenant
  runCount : v.runCount = w.runCount
  lastRun : v.lastRun = w.lastRun
  createdAt : v.createdAt = w.createdAt

/-- How a call can change what is stored under an id. -/
inductive Changes (id : String) : Option Workflow → Exchange → Option Workflow → Prop
  | created {stored : Option Workflow} (w : Workflow) (time : Moment) :
      Changes id stored ⟨.createWorkflow w, .ok (created w id time)⟩ (some (created w id time))
  | updated {w v : Workflow} (u : Workflow) (named : v.id = some id) (keeps : KeepsStanding v w) :
      Changes id (some w) ⟨.updateWorkflow u, .ok v⟩ (some v)
  | deleted (w : Workflow) : Changes id (some w) ⟨.deleteWorkflow id w.tenant, .ok true⟩ none
  | counted (w : Workflow) (finish : Moment) :
      Changes id (some w) ⟨.incrementRunCount (some id) w.tenant finish, .ok ()⟩
        (some (countedOnce w finish))
  | unchanged {stored new : Option Workflow} {x : Exchange} (same : new = stored)
      (creates : ¬ Creates id x) (deletes : ¬ Deletes id x)
      (counts : ∀ w, stored = some w → count? id w.tenant x = none) : Changes id stored x new

section Calls

variable {tenant : String} {time : Moment} {fresh : String}

theorem changes_createWorkflow (m : Memory) (time : Moment) (fresh : String) (w : Workflow)
    (id : String) :
    Changes id (m.workflows.get? id) ⟨.createWorkflow w, .ok (m.createWorkflow time fresh w).1⟩
      ((m.createWorkflow time fresh w).2.workflows.get? id) := by
  have stored : (m.createWorkflow time fresh w).2.workflows.get? id =
      if id = idFor w fresh then some (created w (idFor w fresh) time) else m.workflows.get? id :=
    Keyed.get?_put ..
  rw [stored]
  by_cases named : id = idFor w fresh
  · rw [if_pos named]
    subst named
    exact .created w time
  · rw [if_neg named]
    exact .unchanged rfl (fun same => named (Option.some.inj same).symm) not_false fun _ _ => rfl

theorem changes_updateWorkflow (m : Memory) (time : Moment) (fresh : String) (w : Workflow)
    (id : String) :
    Changes id (m.workflows.get? id) ⟨.updateWorkflow w, (m.reply time fresh (.updateWorkflow w)).1⟩
      ((m.reply time fresh (.updateWorkflow w)).2.workflows.get? id) := by
  rw [reply]
  split
  · next current found =>
    obtain ⟨i, named, found⟩ := Option.bind_eq_some_iff.mp found
    obtain ⟨found, mine⟩ := workflow?_eq_some.mp found
    have stored : (m.updateWorkflow time w current).2.workflows.get? id =
        if id = i then some (m.updateWorkflow time w current).1 else m.workflows.get? id := by
      rw [updateWorkflow, named]
      exact Keyed.get?_put ..
    rw [stored]
    by_cases same : id = i
    · subst same
      rw [if_pos rfl, found]
      exact .updated w named ⟨mine.symm, rfl, rfl, rfl⟩
    · rw [if_neg same]
      exact .unchanged rfl not_false not_false fun _ _ => rfl
  · exact .unchanged rfl not_false not_false fun _ _ => rfl

theorem changes_deleteWorkflow (m : Memory) (i owner id : String) :
    Changes id (m.workflows.get? id) ⟨.deleteWorkflow i owner, .ok (m.deleteWorkflow i owner).1⟩
      ((m.deleteWorkflow i owner).2.workflows.get? id) := by
  unfold deleteWorkflow
  cases looked : m.workflow? i owner with
  | none => exact .unchanged rfl not_false (fun deletes => by cases deletes.2) fun _ _ => rfl
  | some w =>
      obtain ⟨found, rfl⟩ := workflow?_eq_some.mp looked
      dsimp only
      rw [Keyed.get?_erase]
      by_cases same : id = i
      · subst same
        rw [if_pos rfl, found]
        exact .deleted w
      · rw [if_neg same]
        exact .unchanged rfl not_false (fun deletes => same deletes.1.symm) fun _ _ => rfl

theorem changes_incrementRunCount (m : Memory) (i : Option String) (owner : String)
    (finish : Moment) (id : String) :
    Changes id (m.workflows.get? id) ⟨.incrementRunCount i owner finish, .ok ()⟩
      ((m.incrementRunCount i owner finish).workflows.get? id) := by
  cases i with
  | none => exact .unchanged rfl not_false not_false fun _ _ => rfl
  | some i =>
      obtain ⟨w, found, rfl, counted⟩ | ⟨missing, same⟩ :=
        m.incrementRunCount_cases i owner finish
      · rw [counted, Keyed.get?_put]
        by_cases same : id = i
        · subst same
          rw [if_pos rfl, found]
          exact .counted w finish
        · rw [if_neg same]
          exact .unchanged rfl not_false not_false fun _ _ => if_neg fun both => same both.1.symm
      · rw [same]
        refine .unchanged rfl not_false not_false fun w stored => if_neg ?_
        rintro ⟨rfl, mine⟩
        exact missing w stored mine.symm

theorem workflows_saveExecution (m : Memory) (e : Execution) :
    (m.saveExecution e).workflows = m.workflows := by
  unfold saveExecution
  split <;> rfl

theorem workflows_markCancelled (m : Memory) (id tenant : String) (finish : Moment) :
    (m.markCancelled id tenant finish).2.workflows = m.workflows := by
  unfold markCancelled
  split <;> rfl

theorem changes_reply (m : Memory) (time : Moment) (fresh : String) (c : Call) (id : String) :
    Changes id (m.workflows.get? id) ⟨c, (m.reply time fresh c).1⟩
      ((m.reply time fresh c).2.workflows.get? id) := by
  cases c with
  | createWorkflow w => exact m.changes_createWorkflow time fresh w id
  | updateWorkflow w => exact m.changes_updateWorkflow time fresh w id
  | deleteWorkflow i owner => exact m.changes_deleteWorkflow i owner id
  | incrementRunCount i owner finish => exact m.changes_incrementRunCount i owner finish id
  | saveExecution e =>
      exact .unchanged (congrArg (Keyed.get? · id) (m.workflows_saveExecution e)) not_false
        not_false fun _ _ => rfl
  | markCancelled i owner finish =>
      exact .unchanged (congrArg (Keyed.get? · id) (m.workflows_markCancelled i owner finish))
        not_false not_false fun _ _ => rfl
  | _ => exact .unchanged rfl not_false not_false fun _ _ => rfl

end Calls

/-- Every stored workflow bears the id that it is stored under. -/
def Filed (m : Memory) : Prop := ∀ i w, m.workflows.get? i = some w → w.id = some i

theorem Changes.named {stored new : Option Workflow} {x : Exchange} (h : Changes id stored x new)
    (named : ∀ w, stored = some w → w.id = some id) (w : Workflow) (found : new = some w) :
    w.id = some id := by
  cases h with
  | created => cases found; rfl
  | updated _ same => cases found; exact same
  | deleted => cases found
  | counted v => cases found; exact named v rfl
  | unchanged same => exact named w (same.symm.trans found)

theorem Changes.none_of_deletes {stored new : Option Workflow} {x : Exchange}
    (h : Changes id stored x new) (deletes : Deletes id x) : new = none := by
  cases h with
  | created | updated | counted => exact deletes.elim
  | deleted => rfl
  | unchanged _ _ not => exact absurd deletes not

theorem Changes.stays_none {new : Option Workflow} {x : Exchange} (h : Changes id none x new)
    (creates : ¬ Creates id x) : new = none := by
  cases h with
  | created => exact absurd rfl creates
  | unchanged same => exact same

theorem Filed.reply (h : m.Filed) (time : Moment) (fresh : String) (c : Call) :
    (m.reply time fresh c).2.Filed :=
  fun i => (m.changes_reply time fresh c i).named (h i)

theorem not_finds (filed : m.Filed) (distinct : m.Distinct) (missing : m.workflows.get? id = none)
    (time : Moment) (fresh : String) (c : Call) : ¬ Finds id ⟨c, (m.reply time fresh c).1⟩ := by
  have apart {i : String} {w : Workflow} (stored : m.workflows.get? i = some w) : i ≠ id := by
    rintro rfl
    cases missing.symm.trans stored
  have unnamed {i : String} {w : Workflow} (stored : m.workflows.get? i = some w) :
      w.id ≠ some id := by
    rw [filed i w stored]
    exact fun same => apart stored (Option.some.inj same)
  cases c with
  | getWorkflow i owner =>
      rintro ⟨w, found, same⟩
      obtain ⟨stored, -⟩ := workflow?_eq_some.mp found
      exact same.elim (apart stored) (unnamed stored)
  | listWorkflows owner status search =>
      rintro ⟨w, listed, same⟩
      have kept := List.mem_mergeSort.mp listed
      obtain ⟨⟨i, w⟩, entry, rfl⟩ := List.mem_map.mp (List.mem_filter.mp kept).1
      exact unnamed (Keyed.get?_of_mem distinct.workflows entry) same
  | updateWorkflow w =>
      rw [reply]
      split
      · next current found =>
        obtain ⟨i, named, found⟩ := Option.bind_eq_some_iff.mp found
        obtain ⟨stored, -⟩ := workflow?_eq_some.mp found
        have other : w.id ≠ some id := by
          rw [named]
          exact fun same => apart stored (Option.some.inj same)
        exact fun same => same.elim other other
      · exact not_false
  | deleteWorkflow i owner =>
      rintro ⟨rfl, deleted⟩
      change (m.deleteWorkflow i owner).1 = true at deleted
      rw [deleteWorkflow] at deleted
      split at deleted
      · next w found => exact apart (workflow?_eq_some.mp found).1 rfl
      · cases deleted
  | listExecutions workflow owner limit =>
      exact fun finds => finds.elim
  | _ => exact fun finds => finds.elim

end Memory
end Store
end TriggerFlow
