import TriggerFlow.Proofs.Run.Course
import TriggerFlow.Service

/-!
Definitions that are fit to be stored: they have a name, no node id is used twice, and one that is
active may go live. Whatever a draft, a change or a definition from elsewhere is read from, what
becomes of it is fit, and so is what becomes of a fit one by toggling and copying.
-/

namespace TriggerFlow

variable {α β : Type} {w v : Workflow}

namespace Reading

theorem seq_eq_value {f : Reading (α → β)} {a : Reading α} {b : β} :
    f <*> a = .value b ↔ ∃ g x, f = .value g ∧ a = .value x ∧ g x = b := by
  show ap f a = .value b ↔ _
  cases f with
  | faults fs => cases a <;> simp [ap]
  | value g => cases a <;> simp [ap]

theorem map_eq_value {f : α → β} {a : Reading α} {b : β} :
    f <$> a = .value b ↔ ∃ x, a = .value x ∧ f x = b := by
  show map f a = .value b ↔ _
  cases a <;> simp [map]

theorem bind_eq_value {a : Reading α} {f : α → Reading β} {b : β} :
    a.bind f = .value b ↔ ∃ x, a = .value x ∧ f x = .value b := by
  cases a <;> simp [bind]

theorem under_eq_value {segment : Segment} {a : Reading α} {x : α} :
    a.under segment = .value x ↔ a = .value x := by
  cases a <;> simp [under]

theorem toExcept_eq_ok {a : Reading α} {x : α} : a.toExcept = .ok x ↔ a = .value x := by
  cases a <;> simp [toExcept]

end Reading

namespace Graph

theorem firstRepeated?_eq_none {seen ids : List String} :
    firstRepeated? seen ids = none ↔ ids.Nodup ∧ ∀ id ∈ ids, id ∉ seen := by
  induction ids generalizing seen with
  | nil => simp [firstRepeated?]
  | cons id ids ih =>
      rw [firstRepeated?]
      by_cases h : id ∈ seen
      · simp [h]
      · rw [if_neg (by simpa using h), ih]
        rw [List.nodup_cons, List.forall_mem_cons]
        simp only [List.mem_cons, not_or]
        constructor
        · rintro ⟨nodup, apart⟩
          exact ⟨⟨fun repeated => (apart id repeated).1 rfl, nodup⟩, h,
            fun x hx => (apart x hx).2⟩
        · rintro ⟨⟨away, nodup⟩, -, others⟩
          refine ⟨nodup, fun x hx => ⟨?_, others x hx⟩⟩
          rintro rfl
          exact away hx

/-- No node id is used twice. -/
def Distinct (g : Graph) : Prop := (g.nodes.map (·.id)).Nodup

theorem duplicateId?_eq_none {g : Graph} : g.duplicateId? = none ↔ g.Distinct := by
  rw [duplicateId?, firstRepeated?_eq_none, Distinct]
  simp

theorem distinct_eq_value {graph : α → Graph} {r : Reading α} {a : α}
    (h : distinct graph r = .value a) : r = .value a ∧ (graph a).Distinct := by
  obtain ⟨b, read, checked⟩ := Reading.bind_eq_value.mp h
  split at checked
  · cases checked
  · next once =>
    cases checked
    exact ⟨read, duplicateId?_eq_none.mp once⟩

end Graph

namespace Schema

variable {source : Source} {doc : Value}

theorem object_eq_value {name : String} {schema : Fields → Reading α} {a : α}
    (h : object source name schema doc = .value a) :
    ∃ fs, doc = .obj fs ∧ schema fs = .value a := by
  unfold object at h
  split at h
  · exact ⟨_, rfl, h⟩
  · cases h

/-- A text that a name may be: not empty, and proper Unicode. -/
structure Proper (s : String) : Prop where
  filled : s ≠ ""
  legible : Text.Surrogate.occursIn s = false

theorem nonemptyText_eq_value {s : String} :
    nonemptyText doc = .value s ↔ doc = .str s ∧ Proper s := by
  unfold nonemptyText
  rw [Reading.bind_eq_value]
  constructor
  · rintro ⟨t, read, h⟩
    unfold legible at h
    split at h
    · cases h
    next proper =>
    dsimp only at h
    split at h
    · cases h
    next filled =>
    cases h
    refine ⟨?_, filled, Bool.eq_false_iff.mpr proper⟩
    unfold text at read
    split at read
    · cases read
      rfl
    · cases read
  · rintro ⟨rfl, proper⟩
    exact ⟨s, rfl, by simp [legible, proper.legible, proper.filled]⟩

/-- A text that was written is what is read. -/
theorem eq_of_required_text {key s t : String} {fs : Fields} (found : fs.get? key = some (.str s))
    (h : required key text fs = .value t) : t = s := by
  rw [required, found] at h
  exact (Reading.value.inj h).symm

theorem eq_of_nullable_text {key : String} {s t : Option String} {fs : Fields}
    (found : fs.get? key = some (.ofOption .str s)) (h : nullable key text fs = .value t) :
    t = s := by
  rw [nullable, withDefault, found] at h
  cases s with
  | none | some s => exact (Reading.value.inj h).symm

theorem exists_of_required {key : String} {schema : Value → Reading α} {fs : Fields} {a : α}
    (h : required key schema fs = .value a) : ∃ v, fs.get? key = some v ∧ schema v = .value a := by
  unfold required at h
  split at h
  · next v found => exact ⟨v, found, Reading.under_eq_value.mp h⟩
  · cases h

theorem exists_of_given {key : String} {schema : Value → Reading α} {fs : Fields} {a : α}
    (h : given key schema fs = .value (some a)) : ∃ v, schema v = .value a := by
  unfold given withDefault at h
  split at h
  · next v _ =>
    have read : (schema v).map some = .value (some a) := Reading.under_eq_value.mp h
    obtain ⟨x, read, same⟩ := Reading.map_eq_value.mp read
    cases same
    exact ⟨v, read⟩
  · cases h

theorem eq_value_of_optional {schema : Value → Reading α} {a : α}
    (h : optional schema doc = .value (some a)) : schema doc = .value a := by
  unfold optional at h
  split at h
  · cases h
  · obtain ⟨x, read, same⟩ := Reading.map_eq_value.mp h
    cases same
    exact read

end Schema

/-- A draft that was read has a proper name, and uses no node id twice. -/
theorem Draft.proper_of_read {source : Source} {doc : Value} {d : Draft}
    (h : Draft.read source doc = .value d) : Schema.Proper d.name ∧ d.toGraph.Distinct := by
  obtain ⟨fs, -, h⟩ := Schema.object_eq_value h
  obtain ⟨h, distinct⟩ := Graph.distinct_eq_value h
  refine ⟨?_, distinct⟩
  obtain ⟨_, _, h₁, -, rfl⟩ := Reading.seq_eq_value.mp h
  obtain ⟨_, _, h₂, -, rfl⟩ := Reading.seq_eq_value.mp h₁
  obtain ⟨_, _, h₃, -, rfl⟩ := Reading.seq_eq_value.mp h₂
  obtain ⟨_, name, h₄, named, rfl⟩ := Reading.seq_eq_value.mp h₃
  obtain ⟨graph, -, rfl⟩ := Reading.map_eq_value.mp h₄
  obtain ⟨_, -, read⟩ := Schema.exists_of_required named
  exact (Schema.nonemptyText_eq_value.mp read).2

theorem Portable.distinct_of_read {source : Source} {doc : Value} {p : Portable}
    (h : Portable.read source doc = .value p) : p.toGraph.Distinct := by
  obtain ⟨fs, -, h⟩ := Schema.object_eq_value h
  exact (Graph.distinct_eq_value h).2

/-- A name that changes give a workflow is a proper one. -/
theorem Changes.proper_of_read {source : Source} {doc : Value} {c : Changes} {name : String}
    (h : Changes.read source doc = .value c) (given : c.name = some (some name)) :
    Schema.Proper name := by
  obtain ⟨fs, -, h⟩ := Schema.object_eq_value h
  obtain ⟨_, _, h₁, -, rfl⟩ := Reading.seq_eq_value.mp h
  obtain ⟨_, _, h₂, -, rfl⟩ := Reading.seq_eq_value.mp h₁
  obtain ⟨_, _, h₃, -, rfl⟩ := Reading.seq_eq_value.mp h₂
  obtain ⟨_, _, h₄, -, rfl⟩ := Reading.seq_eq_value.mp h₃
  obtain ⟨_, _, h₅, -, rfl⟩ := Reading.seq_eq_value.mp h₄
  obtain ⟨found, named, rfl⟩ := Reading.map_eq_value.mp h₅
  obtain rfl : found = some (some name) := given
  obtain ⟨v, read⟩ := Schema.exists_of_given named
  exact (Schema.nonemptyText_eq_value.mp (Schema.eq_value_of_optional read)).2

namespace Workflow

theorem parts_of_read {source : Source} {fs : Fields} (h : read source (.obj fs) = .value w) :
    Schema.nullable "id" Schema.text fs = .value w.id ∧
      Schema.required "tenant_id" Schema.text fs = .value w.tenant ∧
      Schema.required "name" Schema.text fs = .value w.name ∧ w.toGraph.Distinct := by
  obtain ⟨h, distinct⟩ := Graph.distinct_eq_value h
  obtain ⟨_, _, h₁, -, rfl⟩ := Reading.seq_eq_value.mp h
  obtain ⟨_, _, h₂, -, rfl⟩ := Reading.seq_eq_value.mp h₁
  obtain ⟨_, _, h₃, -, rfl⟩ := Reading.seq_eq_value.mp h₂
  obtain ⟨_, _, h₄, -, rfl⟩ := Reading.seq_eq_value.mp h₃
  obtain ⟨_, _, h₅, -, rfl⟩ := Reading.seq_eq_value.mp h₄
  obtain ⟨_, _, h₆, -, rfl⟩ := Reading.seq_eq_value.mp h₅
  obtain ⟨_, _, h₇, -, rfl⟩ := Reading.seq_eq_value.mp h₆
  obtain ⟨_, _, h₈, -, rfl⟩ := Reading.seq_eq_value.mp h₇
  obtain ⟨_, name, h₉, named, rfl⟩ := Reading.seq_eq_value.mp h₈
  obtain ⟨_, tenant, h₁₀, owned, rfl⟩ := Reading.seq_eq_value.mp h₉
  obtain ⟨_, id, h₁₁, identified, rfl⟩ := Reading.seq_eq_value.mp h₁₀
  obtain ⟨graph, -, rfl⟩ := Reading.map_eq_value.mp h₁₁
  exact ⟨identified, owned, named, distinct⟩

/-- What becomes of a workflow whose document is read anew. -/
structure Reread (w v : Workflow) : Prop where
  id : v.id = w.id
  tenant : v.tenant = w.tenant
  name : v.name = w.name
  distinct : v.toGraph.Distinct

theorem reread_of_read {source : Source} (h : read source w.document = .value v) :
    Reread w v := by
  obtain ⟨identified, owned, named, distinct⟩ := parts_of_read h
  refine ⟨Schema.eq_of_nullable_text ?_ identified, Schema.eq_of_required_text ?_ owned,
    Schema.eq_of_required_text ?_ named, distinct⟩
  all_goals simp [Fields.get?, Graph.fields, List.lookup_cons]

theorem danglingEnd?_of_joined {ids : List String} {cs : List Connection}
    (h : ∀ c ∈ cs, c.source ∈ ids ∧ c.target ∈ ids) : danglingEnd? ids cs = none := by
  induction cs with
  | nil => rfl
  | cons c cs ih =>
      rw [List.forall_mem_cons] at h
      simp [danglingEnd?, h.1, ih h.2]

/-- What may go live passes the check. -/
theorem Activatable.check (h : w.Activatable) : w.checkActivation = .ok () := by
  obtain ⟨n, ns, first⟩ := h.trigger
  have some : w.nodes.isEmpty = false := by
    rw [List.isEmpty_eq_false_iff]
    exact List.ne_nil_of_mem (mem_nodes_of_triggers first)
  simp [checkActivation, activationError?, some, first, danglingEnd?_of_joined h.joined]

/-- A workflow as it may be stored. -/
structure Fit (w : Workflow) : Prop where
  named : w.name ≠ ""
  distinct : w.toGraph.Distinct
  live : w.status = .active → w.Activatable

theorem fit_of_check (named : w.name ≠ "") (distinct : w.toGraph.Distinct)
    (check : w.checkIfActive = .ok ()) : w.Fit where
  named := named
  distinct := distinct
  live := by
    intro active
    rw [checkIfActive, if_pos active] at check
    exact activatable_of_check check

/-- A toggle changes nothing but the status, and makes active only what may go live. -/
theorem toggled_eq_ok (h : w.toggled = .ok v) :
    v = { w with status := .inactive } ∨
      w.checkActivation = .ok () ∧ v = { w with status := .active } := by
  unfold Workflow.toggled at h
  split at h
  · cases h
    exact .inl rfl
  · cases check : w.checkActivation with
    | error f =>
        rw [check] at h
        cases h
    | ok _ =>
        rw [check] at h
        cases h
        exact .inr ⟨rfl, rfl⟩

theorem Fit.toggled (h : w.Fit) (toggled : w.toggled = .ok v) : v.Fit := by
  obtain rfl | ⟨check, rfl⟩ := toggled_eq_ok toggled
  · exact ⟨h.named, h.distinct, nofun⟩
  · have activatable := activatable_of_check check
    exact ⟨h.named, h.distinct, fun _ => ⟨activatable.trigger, activatable.joined⟩⟩

theorem Fit.copy (h : w.Fit) (id : String) (creator : Option String) : (w.copy id creator).Fit where
  named := by
    intro empty
    have long := congrArg String.length empty
    simp [Workflow.copy, copySuffix] at long
  distinct := h.distinct
  live := nofun

/-- Fit is what the definition says; id, statistics and dates do not matter. -/
theorem Fit.congr (h : w.Fit) (name : v.name = w.name) (graph : v.toGraph = w.toGraph)
    (status : v.status = w.status) : v.Fit where
  named := name ▸ h.named
  distinct := graph ▸ h.distinct
  live := by
    intro active
    obtain ⟨trigger, joined⟩ := h.live (status ▸ active)
    exact ⟨graph ▸ trigger, graph ▸ joined⟩

/-- The name of a workflow that changes were made to is its own or one that they give. -/
theorem name_of_changed {c : Changes} (changed : Service.changed c w = .ok v) :
    v.name = w.name ∨ c.name = some (some v.name) := by
  have reread : v.name = (c.name.getD none).getD w.name :=
    (reread_of_read (Reading.toExcept_eq_ok.mp changed)).name
  match given : c.name with
  | none | some none => exact .inl (by rw [reread, given]; rfl)
  | some (some name) => exact .inr (by rw [reread, given]; rfl)

/-- A workflow that changes were made to is fit, if they do not take it its name. -/
theorem Fit.changed (h : w.Fit) {c : Changes} (named : c.name ≠ some (some ""))
    (changed : Service.changed c w = .ok v) (check : v.checkIfActive = .ok ()) : v.Fit := by
  have reread := reread_of_read (Reading.toExcept_eq_ok.mp changed)
  refine fit_of_check (fun empty => ?_) reread.distinct check
  obtain same | given := name_of_changed changed
  · exact h.named (same ▸ empty)
  · exact named (empty ▸ given)

end Workflow

namespace Service

theorem changed_of_checked {c : Changes}
    (h : (do let v ← changed c w; v.checkIfActive; return v : Except Failure Workflow) = .ok v) :
    changed c w = .ok v ∧ v.checkIfActive = .ok () := by
  cases made : changed c w with
  | error f =>
      rw [made] at h
      cases h
  | ok u =>
      rw [made] at h
      cases check : u.checkIfActive with
      | error f => simp [bind, Except.bind, check] at h
      | ok _ =>
          simp only [bind, Except.bind, check, pure, Except.pure, Except.ok.injEq] at h
          subst h
          exact ⟨rfl, check⟩

/-- The draft of a definition that was carried here is the same definition with a proper name. -/
theorem draftOf_eq_ok {p : Portable} {d : Draft} :
    draftOf p = .ok d ↔ Schema.Proper p.name ∧
      d = { p.toGraph with name := p.name, description := p.description, status := none,
                           tags := p.tags } := by
  unfold draftOf
  constructor
  · intro h
    cases read : (Schema.nonemptyText (.str p.name)).under (.key "name") with
    | faults fs =>
        rw [read] at h
        cases h
    | value name =>
        obtain ⟨same, proper⟩ := Schema.nonemptyText_eq_value.mp (Reading.under_eq_value.mp read)
        cases same
        rw [read] at h
        cases h
        exact ⟨proper, rfl⟩
  · rintro ⟨proper, rfl⟩
    have read : (Schema.nonemptyText (.str p.name)).under (.key "name") = .value p.name :=
      Reading.under_eq_value.mpr (Schema.nonemptyText_eq_value.mpr ⟨rfl, proper⟩)
    rw [read]
    rfl

end Service
end TriggerFlow
