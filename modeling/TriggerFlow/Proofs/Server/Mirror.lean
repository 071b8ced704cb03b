import TriggerFlow.Proofs.Server.Ownership

/-!
A world and the share that some tenants have of it. Calls of these tenants have the same effect in
both, and are answered alike; calls of others leave the share as it is. The registry of the share
gives out tickets of its own, which are paired with those of the whole world.
-/

namespace TriggerFlow.Store.Memory

variable {m : Memory} {fresh id : String} {c : Call}

/-- A record stays with its tenant, and only a save brings a new one. -/
theorem tenant_reply (free : m.Free fresh c) (time : Moment) (id : String) :
    ((m.reply time fresh c).2.executions.get? id).map Execution.tenant =
        (m.executions.get? id).map Execution.tenant ∨
      m.executions.get? id = none ∧ ∃ e, c = .saveExecution e ∧ e.id = id := by
  cases c with
  | saveExecution e =>
      show ((m.saveExecution e).executions.get? id).map Execution.tenant = _ ∨ _
      by_cases same : id = e.id
      · subst same
        cases stored : m.executions.get? e.id with
        | none => exact .inr ⟨rfl, e, rfl, rfl⟩
        | some l =>
            left
            cases finished : l.isFinished with
            | true => rw [saveExecution_of_finished stored finished, stored]
            | false =>
                have running : ∀ l', m.executions.get? e.id = some l' → l'.isFinished = false := by
                  intro l' stored'
                  cases stored.symm.trans stored'
                  exact finished
                rw [get?_saveExecution running, if_pos rfl]
                exact congrArg some (free l stored).symm
      · rw [get?_saveExecution_of_ne same]
        exact .inl rfl
  | markCancelled other tenant finish =>
      left
      show ((m.markCancelled other tenant finish).2.executions.get? id).map Execution.tenant = _
      obtain h | ⟨e, stored, -, -, h⟩ := markCancelled_cases m other tenant finish
      · rw [h]
      · rw [h]
        show ((m.executions.put other _).get? id).map Execution.tenant = _
        rw [Keyed.get?_put]
        split
        · next same =>
          rw [same, stored]
          rfl
        · rfl
  | _ =>
      left
      rw [executions_reply rfl]

end TriggerFlow.Store.Memory

namespace TriggerFlow.Server

open Engine Program Service
open Store (Memory)

variable {w v : World} {o : Chance} {owner : Option String} {id tenant : String} {c : Call}
  {k k' : Ticket} {keep : String → Bool} {M : Ticket → Ticket → Prop}

/-- Whether a record with this id is stored for a tenant that is kept. -/
def World.keeps (w : World) (keep : String → Bool) (id : String) : Bool :=
  ((w.record? id).map Execution.tenant).any keep

theorem HasRecord.keeps (h : HasRecord w owner id) (keep : String → Bool) :
    w.keeps keep id = owner.any keep := by
  obtain ⟨e, stored, rfl⟩ := h
  rw [World.keeps, stored]
  rfl

def World.keptTicket? (w : World) (keep : String → Bool) (id : String) : Option Ticket :=
  if w.keeps keep id then w.ticket? id else none

section Stores

variable {c : Store.Call} {fresh : String}

theorem free_of_concerning (asks : Asks owner (.store c))
    (h : Concerning w owner fresh (.store c)) : w.memory.Free fresh c := by
  cases c with
  | createWorkflow v => exact h
  | saveExecution e =>
      intro l stored
      obtain ⟨new, -⟩ | ⟨l', stored', mine⟩ := h
      · cases new.symm.trans stored
      · cases stored'.symm.trans stored
        exact (Option.some.inj (asks.saved.symm.trans mine)).symm
  | _ => trivial

def World.answered (w : World) (time : Moment) (fresh : String) (c : Store.Call) : World :=
  { w with memory := (w.memory.reply time fresh c).2 }

/-- A call of the store changes for whom a record is stored only if nobody holds its ticket. -/
theorem keeps_answered (asks : Asks owner (.store c))
    (h : Concerning w owner fresh (.store c)) (time : Moment) (id : String) :
    (w.answered time fresh c).keeps keep id = w.keeps keep id ∨ w.ticket? id = none := by
  obtain same | ⟨new, e, rfl, rfl⟩ := Memory.tenant_reply (free_of_concerning asks h) time id
  · left
    exact congrArg (Option.any keep) same
  · right
    obtain ⟨-, free⟩ | ⟨l, stored, -⟩ := h
    · exact free
    · cases Eq.trans (Eq.symm new) stored

theorem keptTicket?_answered (asks : Asks owner (.store c))
    (h : Concerning w owner fresh (.store c)) (time : Moment) (id : String) :
    (w.answered time fresh c).keptTicket? keep id = w.keptTicket? keep id := by
  obtain same | free := keeps_answered asks h time id
  · rw [World.keptTicket?, same]
    rfl
  · have free' : (w.answered time fresh c).ticket? id = none := free
    rw [World.keptTicket?, World.keptTicket?, free, free']
    simp only [ite_self]

end Stores

/-- One world holds the share of the tenants that are kept of the other, where `M` pairs the tickets
of their runs. -/
structure Mirrors (keep : String → Bool) (M : Ticket → Ticket → Prop) (w v : World) : Prop where
  memory : v.memory = w.memory.part keep
  tickets : ∀ id, Option.Rel M (w.keptTicket? keep id) (v.ticket? id)
  marks : ∀ {k k'}, M k k' → ∃ m, w.runs.marks[k]? = some m ∧ v.runs.marks[k']? = some m
  left : ∀ {k k' l'}, M k k' → M k l' → k' = l'
  right : ∀ {k l k'}, M k k' → M l k' → k = l
  kept : ∀ {k k' id}, M k k' → w.ticket? id = some k → w.keeps keep id = true

namespace Mirrors

theorem of_ticket? (h : Mirrors keep M w v) (kept : w.keeps keep id = true)
    (held : w.ticket? id = some k) : ∃ k', v.ticket? id = some k' ∧ M k k' := by
  have rel := h.tickets id
  rw [World.keptTicket?, if_pos kept, held] at rel
  cases other : v.ticket? id with
  | none =>
      rw [other] at rel
      cases rel
  | some k' =>
      rw [other] at rel
      cases rel with
      | some pair => exact ⟨k', rfl, pair⟩

theorem of_none (h : Mirrors keep M w v) (kept : w.keeps keep id = true)
    (free : w.ticket? id = none) : v.ticket? id = none := by
  have rel := h.tickets id
  rw [World.keptTicket?, if_pos kept, free] at rel
  cases other : v.ticket? id with
  | none => rfl
  | some k' =>
      rw [other] at rel
      cases rel

theorem isCancelled (h : Mirrors keep M w v) (pair : M k k') :
    v.runs.isCancelled k' = w.runs.isCancelled k := by
  obtain ⟨m, marked, marked'⟩ := h.marks pair
  rw [Runs.isCancelled, Runs.isCancelled, marked, marked']

theorem isFinished (h : Mirrors keep M w v) (pair : M k k') :
    v.runs.isFinished k' = w.runs.isFinished k := by
  obtain ⟨m, marked, marked'⟩ := h.marks pair
  rw [Runs.isFinished, Runs.isFinished, marked, marked']

/-- A mark on a ticket that is paired with another one, and on that one. -/
theorem marks_modify (h : Mirrors keep M w v) (pair : M k k') (f : Mark → Mark) {a b : Ticket}
    (other : M a b) : ∃ m, (w.runs.marks.modify k f)[a]? = some m ∧
      (v.runs.marks.modify k' f)[b]? = some m := by
  obtain ⟨m, marked, marked'⟩ := h.marks other
  rw [List.getElem?_modify, List.getElem?_modify, marked, marked']
  by_cases same : k = a
  · subst same
    obtain rfl := h.left pair other
    exact ⟨f m, by simp, by simp⟩
  · have apart : k' ≠ b := fun same' => same (h.right pair (same' ▸ other))
    exact ⟨m, by simp [same], by simp [apart]⟩

variable {w' v' : World}

theorem congr (h : Mirrors keep M w v) (memory : w'.memory = w.memory) (runs : w'.runs = w.runs)
    (memory' : v'.memory = v.memory) (runs' : v'.runs = v.runs) : Mirrors keep M w' v' := by
  obtain ⟨_, _, _⟩ := w
  obtain ⟨_, _, _⟩ := w'
  obtain ⟨_, _, _⟩ := v
  obtain ⟨_, _, _⟩ := v'
  dsimp only at memory runs memory' runs'
  subst memory runs memory' runs'
  exact ⟨h.memory, h.tickets, h.marks, h.left, h.right, h.kept⟩

theorem answered {c : Store.Call} {time : Moment} {fresh : String} (h : Mirrors keep M w v)
    (asks : Asks owner (.store c)) (concerning : Concerning w owner fresh (.store c))
    (memory : v'.memory = (w.memory.reply time fresh c).2.part keep) (runs : v'.runs = v.runs) :
    Mirrors keep M (w.answered time fresh c) v' where
  memory := memory
  tickets id := by
    rw [keptTicket?_answered asks concerning]
    have same : v'.ticket? id = v.ticket? id := congrArg (·.ticket? id) runs
    rw [same]
    exact h.tickets id
  marks pair := runs ▸ h.marks pair
  left := h.left
  right := h.right
  kept := by
    intro k k' id pair held
    obtain same | free := keeps_answered asks concerning time id
    · exact same.trans (h.kept pair held)
    · cases Eq.trans (Eq.symm free) held

theorem store_kept {c : Store.Call} (h : Mirrors keep M w v) (distinct : w.memory.Distinct)
    (mine : c.IsOf tenant) (kept : keep tenant = true)
    (concerning : Concerning w (some tenant) o.id (.store c)) (working : o.outage = none) :
    (v.perform o (.store c)).1 = (w.perform o (.store c)).1 ∧
      Mirrors keep M (w.perform o (.store c)).2 (v.perform o (.store c)).2 := by
  have asks : Asks (some tenant) (.store c) := ⟨tenant, rfl, mine⟩
  have share : (w.memory.part keep).reply o.time o.id c = _ :=
    Memory.reply_part distinct mine kept (free_of_concerning asks concerning)
  rw [← h.memory] at share
  rw [perform_store working, perform_store working, share]
  exact ⟨rfl, h.answered asks concerning rfl rfl⟩

theorem store_left {c : Store.Call} (h : Mirrors keep M w v) (distinct : w.memory.Distinct)
    (mine : c.IsOf tenant) (left : keep tenant = false)
    (concerning : Concerning w (some tenant) o.id (.store c)) (working : o.outage = none) :
    Mirrors keep M (w.perform o (.store c)).2 v := by
  have asks : Asks (some tenant) (.store c) := ⟨tenant, rfl, mine⟩
  have share : (w.memory.reply o.time o.id c).2.part keep = w.memory.part keep :=
    Memory.part_reply_of_not distinct mine left (free_of_concerning asks concerning)
  rw [perform_store working]
  exact h.answered asks concerning (h.memory.trans share.symm) rfl

section Registry

def withRuns (w : World) (r : Runs) : World := { w with runs := r }

/-- One more pair: the tickets that are given out next. -/
def Paired (M : Ticket → Ticket → Prop) (w v : World) (k k' : Ticket) : Prop :=
  M k k' ∨ k = w.runs.marks.length ∧ k' = v.runs.marks.length

theorem rel_mono {M' : Ticket → Ticket → Prop} {a b : Option Ticket} (h : Option.Rel M a b)
    (mono : ∀ {k k'}, M k k' → M' k k') : Option.Rel M' a b := by
  cases h with
  | some pair => exact .some (mono pair)
  | none => exact .none

theorem lt_of_pair (h : Mirrors keep M w v) (pair : M k k') :
    k < w.runs.marks.length ∧ k' < v.runs.marks.length := by
  obtain ⟨m, marked, marked'⟩ := h.marks pair
  exact ⟨(List.getElem?_eq_some_iff.mp marked).1, (List.getElem?_eq_some_iff.mp marked').1⟩

theorem register_kept (h : Mirrors keep M w v) (kept : w.keeps keep id = true)
    (given : ∀ {other k}, w.ticket? other = some k → k < w.runs.marks.length) :
    Mirrors keep (Paired M w v) (withRuns w (w.runs.register id).2)
      (withRuns v (v.runs.register id).2) where
  memory := h.memory
  tickets other := by
    have rel := h.tickets other
    rw [World.keptTicket?] at rel ⊢
    show Option.Rel _ (if w.keeps keep other then (w.runs.register id).2.ticket? other else none)
      ((v.runs.register id).2.ticket? other)
    rw [Runs.ticket?_register, Runs.ticket?_register]
    by_cases same : other = id
    · rw [same, if_pos kept, if_pos rfl, if_pos rfl]
      exact .some (.inr ⟨rfl, rfl⟩)
    · rw [if_neg same, if_neg same]
      exact rel_mono rel .inl
  marks := by
    rintro k k' (pair | ⟨rfl, rfl⟩)
    · obtain ⟨m, marked, marked'⟩ := h.marks pair
      obtain ⟨inside, inside'⟩ := h.lt_of_pair pair
      exact ⟨m, (List.getElem?_append_left inside).trans marked,
        (List.getElem?_append_left inside').trans marked'⟩
    · exact ⟨⟨false, false⟩, List.getElem?_concat_length, List.getElem?_concat_length⟩
  left := by
    rintro k k' l' (pair | ⟨rfl, rfl⟩) (other | ⟨same, rfl⟩)
    · exact h.left pair other
    · exact absurd (h.lt_of_pair pair).1 (same ▸ Nat.lt_irrefl _)
    · exact absurd (h.lt_of_pair other).1 (Nat.lt_irrefl _)
    · rfl
  right := by
    rintro k l k' (pair | ⟨rfl, rfl⟩) (other | ⟨rfl, same⟩)
    · exact h.right pair other
    · exact absurd (h.lt_of_pair pair).2 (same ▸ Nat.lt_irrefl _)
    · exact absurd (h.lt_of_pair other).2 (Nat.lt_irrefl _)
    · rfl
  kept := by
    intro k k' other pair held
    have held : (w.runs.register id).2.ticket? other = some k := held
    rw [Runs.ticket?_register] at held
    split at held
    · next same => exact same ▸ kept
    · obtain pair | ⟨rfl, -⟩ := pair
      · exact h.kept pair held
      · exact absurd (given held) (Nat.lt_irrefl _)

/-- A registry that changes for a run of another tenant only. -/
theorem of_left {r : Runs} (h : Mirrors keep M w v) (left : w.keeps keep id = false)
    (others : ∀ other, other ≠ id → r.ticket? other = w.ticket? other)
    (own : ∀ k, r.ticket? id = some k → ∀ b, ¬ M k b)
    (marks : ∀ a b, M a b → r.marks[a]? = w.runs.marks[a]?) : Mirrors keep M (withRuns w r) v where
  memory := h.memory
  tickets other := by
    have rel := h.tickets other
    rw [World.keptTicket?] at rel ⊢
    show Option.Rel _ (if w.keeps keep other then r.ticket? other else none) _
    by_cases same : other = id
    · rw [same, left] at rel ⊢
      exact rel
    · rw [others other same]
      exact rel
  marks pair := by
    obtain ⟨m, marked, marked'⟩ := h.marks pair
    exact ⟨m, (marks _ _ pair).trans marked, marked'⟩
  left := h.left
  right := h.right
  kept := by
    intro k k' other pair held
    by_cases same : other = id
    · subst same
      exact absurd pair (own k held k')
    · exact h.kept pair ((others other same).symm.trans held)

theorem register_left (h : Mirrors keep M w v) (left : w.keeps keep id = false) :
    Mirrors keep M (withRuns w (w.runs.register id).2) v := by
  refine h.of_left left (fun other apart => ?_) (fun k held b pair => ?_) (fun a b pair => ?_)
  · rw [Runs.ticket?_register, if_neg apart]
    rfl
  · rw [Runs.ticket?_register, if_pos rfl] at held
    cases held
    exact absurd (h.lt_of_pair pair).1 (Nat.lt_irrefl _)
  · exact List.getElem?_append_left (h.lt_of_pair pair).1

theorem release_kept (h : Mirrors keep M w v) (pair : M k k') :
    Mirrors keep M (withRuns w (w.runs.release id k)) (withRuns v (v.runs.release id k')) where
  memory := h.memory
  tickets other := by
    have rel := h.tickets other
    rw [World.keptTicket?] at rel ⊢
    show Option.Rel _ (if w.keeps keep other then (w.runs.release id k).ticket? other else none)
      ((v.runs.release id k').ticket? other)
    rw [Runs.ticket?_release, Runs.ticket?_release]
    by_cases same : other = id
    · rw [if_pos same, if_pos same, ite_self]
      exact .none
    · rw [if_neg same, if_neg same]
      exact rel
  marks other := h.marks_modify pair _ other
  left := h.left
  right := h.right
  kept := by
    intro k k' other pair held
    have held : (w.runs.release id _).ticket? other = some k := held
    rw [Runs.ticket?_release] at held
    split at held
    · cases held
    · exact h.kept pair held

/-- The ticket of a run of another tenant is not paired. -/
theorem alone (h : Mirrors keep M w v) (left : w.keeps keep id = false)
    (held : w.ticket? id = some k) : ∀ b, ¬ M k b := by
  intro b pair
  cases left.symm.trans (h.kept pair held)

theorem modify_left (h : Mirrors keep M w v) (left : w.keeps keep id = false)
    (held : w.ticket? id = some k) (f : Mark → Mark) {a b : Ticket} (pair : M a b) :
    (w.runs.marks.modify k f)[a]? = w.runs.marks[a]? := by
  have apart : k ≠ a := fun same => h.alone left held b (same ▸ pair)
  exact List.getElem?_modify_ne _ _ apart

theorem release_left (h : Mirrors keep M w v) (left : w.keeps keep id = false)
    (held : w.ticket? id = some k) : Mirrors keep M (withRuns w (w.runs.release id k)) v := by
  refine h.of_left left (fun other apart => ?_) (fun l held' => ?_)
    fun a b pair => h.modify_left left held _ pair
  · rw [Runs.ticket?_release, if_neg apart]
    rfl
  · rw [Runs.ticket?_release, if_pos rfl] at held'
    cases held'

theorem requestCancel_kept (h : Mirrors keep M w v) (kept : w.keeps keep id = true) :
    (v.runs.requestCancel id).1 = (w.runs.requestCancel id).1 ∧
      Mirrors keep M (withRuns w (w.runs.requestCancel id).2)
        (withRuns v (v.runs.requestCancel id).2) := by
  cases held : w.ticket? id with
  | none =>
      rw [Runs.requestCancel_of_none held, Runs.requestCancel_of_none (h.of_none kept held)]
      exact ⟨rfl, h.congr rfl rfl rfl rfl⟩
  | some k =>
      obtain ⟨k', held', pair⟩ := h.of_ticket? kept held
      rw [Runs.requestCancel_of_some held, Runs.requestCancel_of_some held']
      exact ⟨rfl, h.memory, h.tickets, fun other => h.marks_modify pair _ other, h.left, h.right,
        h.kept⟩

theorem requestCancel_left (h : Mirrors keep M w v) (left : w.keeps keep id = false) :
    Mirrors keep M (withRuns w (w.runs.requestCancel id).2) v := by
  cases held : w.ticket? id with
  | none =>
      rw [Runs.requestCancel_of_none held]
      exact h.congr rfl rfl rfl rfl
  | some k =>
      rw [Runs.requestCancel_of_some held]
      exact h.of_left left (fun _ _ => rfl) (fun _ held => h.alone left held)
        fun a b pair => h.modify_left left held _ pair

end Registry

section Calls

/-- A call of a kept tenant that shows no ticket is answered from the share as from the whole. -/
theorem plain_kept (h : Mirrors keep M w v) (distinct : w.memory.Distinct)
    (plain : Plain (some tenant) c) (kept : keep tenant = true)
    (concerning : Concerning w (some tenant) o.id c) (working : o.outage = none) :
    (v.perform o c).1 = (w.perform o c).1 ∧
      Mirrors keep M (w.perform o c).2 (v.perform o c).2 := by
  cases c with
  | store c =>
      obtain ⟨_, same, mine⟩ := plain
      cases same
      exact h.store_kept distinct mine kept concerning working
  | now | freshId | invoke | notify | awaitFinished => exact ⟨rfl, h⟩
  | startInBackground | leaveBackground => exact ⟨rfl, h.congr rfl rfl rfl rfl⟩
  | requestCancel id =>
      exact h.requestCancel_kept ((HasRecord.keeps concerning keep).trans kept)
  | awaitBackground => cases plain
  | latest | register | attach | release | isCancelled | isRunning => exact plain.elim

/-- A call that is not made for a kept tenant leaves the share as it is. -/
theorem left_alone (h : Mirrors keep M w v) (distinct : w.memory.Distinct) (asks : Asks owner c)
    (left : owner.any keep = false) (concerning : Concerning w owner o.id c)
    (working : o.outage = none) : Mirrors keep M (w.perform o c).2 v := by
  cases c with
  | store c =>
      obtain ⟨tenant, rfl, mine⟩ := asks
      exact h.store_left distinct mine left concerning working
  | register id => exact h.register_left ((concerning.1.keeps keep).trans left)
  | attach id =>
      obtain ⟨-, k, held⟩ := concerning
      show Mirrors keep M (withRuns w (w.runs.attach id).2) v
      rw [Runs.attach_of_some held]
      exact h.congr rfl rfl rfl rfl
  | release id k => exact h.release_left ((concerning.1.keeps keep).trans left) concerning.2
  | requestCancel id => exact h.requestCancel_left ((HasRecord.keeps concerning keep).trans left)
  | startInBackground | leaveBackground => exact h.congr rfl rfl rfl rfl
  | _ => exact h

end Calls

end Mirrors

end TriggerFlow.Server
