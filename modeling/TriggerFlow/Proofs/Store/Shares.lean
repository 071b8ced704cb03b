import TriggerFlow.Proofs.Store.Statistics

/-!
The share that some tenants have of a store. A call of one of them is answered from their share, and
changes that share as it changes the store; a call of another one leaves it as it is.
-/

namespace TriggerFlow

namespace Keyed

variable {α : Type} {m : Keyed α} {p : α → Bool} {k : String} {a b : α}

/-- The values of a kind, under their keys. -/
def part (m : Keyed α) (p : α → Bool) : Keyed α := m.filter fun x => p x.2

/-- No key occurs twice. -/
def Distinct (m : Keyed α) : Prop := (m.map Prod.fst).Nodup

theorem map_fst_put (m : Keyed α) (k : String) (a : α) :
    (m.put k a).map Prod.fst =
      if k ∈ m.map Prod.fst then m.map Prod.fst else m.map Prod.fst ++ [k] := by
  induction m with
  | nil => rfl
  | cons x m ih =>
      obtain ⟨key, b⟩ := x
      by_cases same : key = k
      · simp [put, same]
      · simp only [put, if_neg same, List.map_cons, ih, List.mem_cons, Ne.symm same, false_or]
        split <;> rfl

theorem Distinct.put (h : m.Distinct) (k : String) (a : α) : (m.put k a).Distinct := by
  rw [Distinct, map_fst_put]
  split
  · exact h
  · next new => exact (List.perm_append_singleton k _).nodup_iff.mpr (List.nodup_cons.mpr ⟨new, h⟩)

theorem Distinct.filter (h : m.Distinct) (q : String × α → Bool) :
    Distinct (List.filter q m) :=
  (List.filter_sublist.map Prod.fst).nodup h

theorem get?_part (h : m.Distinct) (p : α → Bool) (k : String) :
    (m.part p).get? k = (m.get? k).filter p := by
  induction m with
  | nil => rfl
  | cons x m ih =>
      obtain ⟨key, b⟩ := x
      obtain ⟨new, rest⟩ := List.nodup_cons.mp h
      have ih := ih rest
      rw [part] at ih ⊢
      by_cases same : k = key
      · subst same
        have missing : get? m k = none := by
          rw [get?, List.lookup_eq_none_iff]
          intro y hy
          have apart : y.1 ≠ k := fun same => new (List.mem_map.mpr ⟨y, hy, same⟩)
          exact bne_iff_ne.mpr apart.symm
        rw [missing] at ih
        cases kept : p b <;> simp [kept, get?_cons, ih, Option.filter_some]
      · cases kept : p b <;> simp [kept, get?_cons, same, ih]

/-- A value of the kind that is put where none of another kind stands. -/
theorem part_put (kept : p a = true) (here : ∀ b, m.get? k = some b → p b = true) :
    (m.put k a).part p = (m.part p).put k a := by
  induction m with
  | nil => simp [put, part, kept]
  | cons x m ih =>
      obtain ⟨key, b⟩ := x
      by_cases same : key = k
      · have old : p b = true := here b (by rw [get?_cons, if_pos same.symm])
        simp [put, part, same, kept, old]
      · have ih := ih fun b found => here b (by rw [get?_cons, if_neg (Ne.symm same), found])
        rw [part, part] at ih
        cases old : p b <;> simp [put, part, same, old, ih]

/-- A value of another kind that is put where none of the kind stands. -/
theorem part_put_of_not (left : p a = false) (here : ∀ b, m.get? k = some b → p b = false) :
    (m.put k a).part p = m.part p := by
  induction m with
  | nil => simp [put, part, left]
  | cons x m ih =>
      obtain ⟨key, b⟩ := x
      by_cases same : key = k
      · have old : p b = false := here b (by rw [get?_cons, if_pos same.symm])
        simp [put, part, same, left, old]
      · have ih := ih fun b found => here b (by rw [get?_cons, if_neg (Ne.symm same), found])
        rw [part, part] at ih
        cases old : p b <;> simp [put, part, same, old, ih]

theorem part_erase (m : Keyed α) (p : α → Bool) (k : String) :
    (m.erase k).part p = (m.part p).erase k := by
  rw [erase, part, List.filter_filter, erase, part, List.filter_filter]
  exact List.filter_congr fun _ _ => Bool.and_comm ..

theorem erase_of_get?_eq_none (h : m.get? k = none) : m.erase k = m := by
  refine List.filter_eq_self.mpr fun x hx => ?_
  have apart : k ≠ x.1 := by simpa using List.lookup_eq_none_iff.mp h x hx
  exact bne_iff_ne.mpr apart.symm

theorem values_part (m : Keyed α) (p : α → Bool) : (m.part p).values = m.values.filter p := by
  rw [values, values, part, List.filter_map]
  rfl

end Keyed

namespace Store

/-- A call that is made for a tenant. -/
def Call.IsOf (tenant : String) : Call → Prop
  | .createWorkflow w | .updateWorkflow w => w.tenant = tenant
  | .saveExecution e => e.tenant = tenant
  | .getWorkflow _ owner | .listWorkflows owner _ _ | .deleteWorkflow _ owner => owner = tenant
  | .incrementRunCount _ owner _ | .markCancelled _ owner _ => owner = tenant
  | .getExecution _ owner | .listExecutions _ owner _ => owner = tenant

namespace Memory

variable {m : Memory} {keep : String → Bool} {tenant : String} {time : Moment} {fresh : String}
  {c : Call}

/-- The share of the tenants that are kept. -/
def part (m : Memory) (keep : String → Bool) : Memory :=
  ⟨m.workflows.part fun w => keep w.tenant, m.executions.part fun e => keep e.tenant⟩

/-- No id is given twice. -/
structure Distinct (m : Memory) : Prop where
  workflows : Keyed.Distinct m.workflows
  executions : Keyed.Distinct m.executions

/-- What a call stores is new, or does not change hands. -/
def Free (m : Memory) (fresh : String) : Call → Prop
  | .createWorkflow w => m.workflows.get? (idFor w fresh) = none
  | .saveExecution e => ∀ l, m.executions.get? e.id = some l → l.tenant = e.tenant
  | _ => True

theorem Distinct.reply (h : m.Distinct) (time : Moment) (fresh : String) (c : Call) :
    (m.reply time fresh c).2.Distinct := by
  obtain ⟨workflows, executions⟩ := h
  cases c with
  | createWorkflow w => exact ⟨workflows.put _ _, executions⟩
  | updateWorkflow w =>
      rw [Memory.reply]
      split
      · exact ⟨workflows.put _ _, executions⟩
      · exact ⟨workflows, executions⟩
  | deleteWorkflow id tenant =>
      show (m.deleteWorkflow id tenant).2.Distinct
      unfold deleteWorkflow
      split
      · exact ⟨workflows.filter _, executions⟩
      · exact ⟨workflows, executions⟩
  | incrementRunCount id tenant finish =>
      show (m.incrementRunCount id tenant finish).Distinct
      unfold incrementRunCount
      split
      · exact ⟨workflows.put _ _, executions⟩
      · exact ⟨workflows, executions⟩
  | saveExecution e =>
      show (m.saveExecution e).Distinct
      unfold saveExecution
      split
      · exact ⟨workflows, executions⟩
      · exact ⟨workflows, executions.put _ _⟩
  | markCancelled id tenant finish =>
      show (m.markCancelled id tenant finish).2.Distinct
      unfold markCancelled
      split
      · exact ⟨workflows, executions.put _ _⟩
      · exact ⟨workflows, executions⟩
  | _ => exact ⟨workflows, executions⟩

section Replies

variable {α : Type} {id : String} {w : Workflow} {e : Execution}

theorem filter_kept (owner : α → String) (kept : keep tenant = true) (o : Option α) :
    (o.filter fun a => keep (owner a)).filter (fun a => owner a == tenant) =
      o.filter fun a => owner a == tenant := by
  cases o with
  | none => rfl
  | some a => by_cases mine : owner a = tenant <;> simp [Option.filter_some, mine, kept]

theorem workflow?_part (h : m.Distinct) (kept : keep tenant = true) (id : String) :
    (m.part keep).workflow? id tenant = m.workflow? id tenant := by
  rw [workflow?, part, Keyed.get?_part h.workflows]
  exact filter_kept Workflow.tenant kept _

theorem execution?_part (h : m.Distinct) (kept : keep tenant = true) (id : String) :
    (m.part keep).execution? id tenant = m.execution? id tenant := by
  rw [execution?, part, Keyed.get?_part h.executions]
  exact filter_kept Execution.tenant kept _

theorem listWorkflows_part (kept : keep tenant = true) (status search : Option String) :
    (m.part keep).listWorkflows tenant status search = m.listWorkflows tenant status search := by
  rw [listWorkflows, part, Keyed.values_part, List.filter_filter]
  congr 1
  refine List.filter_congr fun w _ => ?_
  by_cases mine : w.tenant = tenant <;> simp [mine, kept]

theorem listExecutions_part (kept : keep tenant = true) (workflow : String) (limit : Int) :
    (m.part keep).listExecutions workflow tenant limit =
      m.listExecutions workflow tenant limit := by
  rw [listExecutions, part, Keyed.values_part, List.filter_filter]
  have same : (m.executions.values.filter fun e =>
      (e.workflow == workflow && e.tenant == tenant) && keep e.tenant) =
        m.executions.values.filter fun e => e.workflow == workflow && e.tenant == tenant := by
    refine List.filter_congr fun e _ => ?_
    by_cases mine : e.tenant = tenant <;> simp [mine, kept]
  rw [same]
  rfl

theorem part_putWorkflow (kept : keep w.tenant = true)
    (here : ∀ v, m.workflows.get? id = some v → keep v.tenant = true) :
    Memory.part ⟨m.workflows.put id w, m.executions⟩ keep =
      ⟨(m.part keep).workflows.put id w, (m.part keep).executions⟩ :=
  congrArg (Memory.mk · _) (Keyed.part_put kept here)

theorem part_eraseWorkflow (m : Memory) (id : String) :
    Memory.part ⟨m.workflows.erase id, m.executions⟩ keep =
      ⟨(m.part keep).workflows.erase id, (m.part keep).executions⟩ :=
  congrArg (Memory.mk · _) (Keyed.part_erase ..)

theorem part_putExecution (kept : keep e.tenant = true)
    (here : ∀ l, m.executions.get? id = some l → keep l.tenant = true) :
    Memory.part ⟨m.workflows, m.executions.put id e⟩ keep =
      ⟨(m.part keep).workflows, (m.part keep).executions.put id e⟩ :=
  congrArg (Memory.mk _ ·) (Keyed.part_put kept here)

theorem keeps_of_workflow? (found : m.workflow? id tenant = some w) {b : Bool}
    (kept : keep tenant = b) : ∀ v, m.workflows.get? id = some v → keep v.tenant = b := by
  intro v there
  obtain ⟨here, mine⟩ := workflow?_eq_some.mp found
  cases here.symm.trans there
  rw [mine, kept]

theorem keeps_of_execution? (found : m.execution? id tenant = some e) {b : Bool}
    (kept : keep tenant = b) : ∀ l, m.executions.get? id = some l → keep l.tenant = b := by
  intro l there
  obtain ⟨here, mine⟩ := execution?_eq_some.mp found
  cases here.symm.trans there
  rw [mine, kept]

theorem createWorkflow_part (kept : keep w.tenant = true)
    (free : m.workflows.get? (idFor w fresh) = none) :
    (m.part keep).createWorkflow time fresh w =
      ((m.createWorkflow time fresh w).1, (m.createWorkflow time fresh w).2.part keep) := by
  unfold createWorkflow
  dsimp only
  rw [part_putWorkflow (by exact kept) fun v found => by cases free.symm.trans found]

theorem updateWorkflow_part {current : Workflow} (kept : keep w.tenant = true)
    (found : m.updated? w = some current) :
    (m.part keep).updateWorkflow time w current =
      ((m.updateWorkflow time w current).1, (m.updateWorkflow time w current).2.part keep) := by
  obtain ⟨id, named, found⟩ := Option.bind_eq_some_iff.mp found
  unfold updateWorkflow
  dsimp only
  rw [part_putWorkflow (by exact kept)]
  rw [named]
  exact keeps_of_workflow? found kept

theorem deleteWorkflow_part (h : m.Distinct) (kept : keep tenant = true) (id : String) :
    (m.part keep).deleteWorkflow id tenant =
      ((m.deleteWorkflow id tenant).1, (m.deleteWorkflow id tenant).2.part keep) := by
  unfold deleteWorkflow
  rw [workflow?_part h kept]
  split
  · exact Prod.ext rfl (part_eraseWorkflow m id).symm
  · rfl

theorem incrementRunCount_part (h : m.Distinct) (kept : keep tenant = true) (id : Option String)
    (finish : Moment) :
    (m.part keep).incrementRunCount id tenant finish =
      (m.incrementRunCount id tenant finish).part keep := by
  cases id with
  | none => rfl
  | some id =>
      unfold incrementRunCount
      dsimp only [Option.bind_some]
      rw [workflow?_part h kept]
      cases found : m.workflow? id tenant with
      | none => rfl
      | some w =>
          have mine : keep w.tenant = true := by rw [(workflow?_eq_some.mp found).2, kept]
          exact (part_putWorkflow (by exact mine) (keeps_of_workflow? found kept)).symm

theorem saveExecution_part (h : m.Distinct) (kept : keep e.tenant = true)
    (free : ∀ l, m.executions.get? e.id = some l → l.tenant = e.tenant) :
    (m.part keep).saveExecution e = (m.saveExecution e).part keep := by
  have here : ∀ l, m.executions.get? e.id = some l → keep l.tenant = true := by
    intro l found
    rw [free l found, kept]
  have same : (m.part keep).executions.get? e.id = m.executions.get? e.id := by
    rw [part, Keyed.get?_part h.executions]
    cases found : m.executions.get? e.id with
    | none => rfl
    | some l => exact Option.filter_some_pos (here l found)
  unfold saveExecution
  rw [same]
  split
  · rfl
  · exact (part_putExecution kept here).symm

theorem markCancelled_part (h : m.Distinct) (kept : keep tenant = true) (id : String)
    (finish : Moment) :
    (m.part keep).markCancelled id tenant finish =
      ((m.markCancelled id tenant finish).1, (m.markCancelled id tenant finish).2.part keep) := by
  unfold markCancelled
  rw [execution?_part h kept]
  split
  · next e found =>
    obtain ⟨found, -⟩ := Option.filter_eq_some_iff.mp found
    have mine : keep e.tenant = true := by rw [(execution?_eq_some.mp found).2, kept]
    exact Prod.ext rfl (part_putExecution (by exact mine) (keeps_of_execution? found kept)).symm
  · rfl

/-- A call of a tenant that is kept is answered from the share, and changes it accordingly. -/
theorem reply_part (h : m.Distinct) (mine : c.IsOf tenant) (kept : keep tenant = true)
    (free : m.Free fresh c) :
    (m.part keep).reply time fresh c =
      ((m.reply time fresh c).1, (m.reply time fresh c).2.part keep) := by
  cases c with
  | createWorkflow w =>
      obtain rfl : w.tenant = tenant := mine
      rw [reply, createWorkflow_part kept free]
      rfl
  | getWorkflow id owner =>
      obtain rfl : owner = tenant := mine
      rw [reply, workflow?_part h kept]
      rfl
  | listWorkflows owner status search =>
      obtain rfl : owner = tenant := mine
      rw [reply, listWorkflows_part kept]
      rfl
  | updateWorkflow w =>
      obtain rfl : w.tenant = tenant := mine
      have same : (m.part keep).updated? w = m.updated? w :=
        Option.bind_congr fun id _ => workflow?_part h kept id
      rw [reply, reply, same]
      split
      · next current found => rw [updateWorkflow_part kept found]
      · rfl
  | deleteWorkflow id owner =>
      obtain rfl : owner = tenant := mine
      rw [reply, deleteWorkflow_part h kept]
      rfl
  | incrementRunCount id owner finish =>
      obtain rfl : owner = tenant := mine
      rw [reply, incrementRunCount_part h kept]
      rfl
  | saveExecution e =>
      obtain rfl : e.tenant = tenant := mine
      rw [reply, saveExecution_part h kept free]
      rfl
  | markCancelled id owner finish =>
      obtain rfl : owner = tenant := mine
      rw [reply, markCancelled_part h kept]
      rfl
  | getExecution id owner =>
      obtain rfl : owner = tenant := mine
      rw [reply, execution?_part h kept]
      rfl
  | listExecutions workflow owner limit =>
      obtain rfl : owner = tenant := mine
      rw [reply, listExecutions_part kept]
      rfl

theorem part_putWorkflow_of_not (left : keep w.tenant = false)
    (here : ∀ v, m.workflows.get? id = some v → keep v.tenant = false) :
    Memory.part ⟨m.workflows.put id w, m.executions⟩ keep = m.part keep :=
  congrArg (Memory.mk · _) (Keyed.part_put_of_not left here)

theorem part_putExecution_of_not (left : keep e.tenant = false)
    (here : ∀ l, m.executions.get? id = some l → keep l.tenant = false) :
    Memory.part ⟨m.workflows, m.executions.put id e⟩ keep = m.part keep :=
  congrArg (Memory.mk _ ·) (Keyed.part_put_of_not left here)

/-- A call of a tenant that is not kept leaves the share as it is. -/
theorem part_reply_of_not (h : m.Distinct) (mine : c.IsOf tenant) (left : keep tenant = false)
    (free : m.Free fresh c) : (m.reply time fresh c).2.part keep = m.part keep := by
  cases c with
  | createWorkflow w =>
      obtain rfl : w.tenant = tenant := mine
      exact part_putWorkflow_of_not (by exact left) fun v found => by cases free.symm.trans found
  | updateWorkflow w =>
      obtain rfl : w.tenant = tenant := mine
      rw [reply]
      split
      · next current found =>
        obtain ⟨id, named, found⟩ := Option.bind_eq_some_iff.mp found
        refine part_putWorkflow_of_not (by exact left) ?_
        rw [named]
        exact keeps_of_workflow? found left
      · rfl
  | deleteWorkflow id owner =>
      obtain rfl : owner = tenant := mine
      show (m.deleteWorkflow id owner).2.part keep = m.part keep
      unfold deleteWorkflow
      split
      · next w found =>
        refine (part_eraseWorkflow m id).trans (congrArg (Memory.mk · _) ?_)
        refine Keyed.erase_of_get?_eq_none ?_
        rw [part, Keyed.get?_part h.workflows, (workflow?_eq_some.mp found).1]
        exact Option.filter_some_neg (by simp [(workflow?_eq_some.mp found).2, left])
      · rfl
  | incrementRunCount id owner finish =>
      obtain rfl : owner = tenant := mine
      show (m.incrementRunCount id owner finish).part keep = m.part keep
      unfold incrementRunCount
      split
      · next i w found =>
        obtain ⟨j, -, found⟩ := Option.bind_eq_some_iff.mp found
        obtain ⟨v, found, same⟩ := Option.map_eq_some_iff.mp found
        cases same
        have other : keep w.tenant = false := by rw [(workflow?_eq_some.mp found).2, left]
        exact part_putWorkflow_of_not (by exact other) (keeps_of_workflow? found left)
      · rfl
  | saveExecution e =>
      obtain rfl : e.tenant = tenant := mine
      show (m.saveExecution e).part keep = m.part keep
      unfold saveExecution
      split
      · rfl
      · exact part_putExecution_of_not left fun l found => by rw [free l found, left]
  | markCancelled id owner finish =>
      obtain rfl : owner = tenant := mine
      show (m.markCancelled id owner finish).2.part keep = m.part keep
      unfold markCancelled
      split
      · next e found =>
        obtain ⟨found, -⟩ := Option.filter_eq_some_iff.mp found
        have other : keep e.tenant = false := by rw [(execution?_eq_some.mp found).2, left]
        exact part_putExecution_of_not (by exact other) (keeps_of_execution? found left)
      · rfl
  | _ => rfl

end Replies

end Memory
end Store
end TriggerFlow
