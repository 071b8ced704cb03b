import TriggerFlow.Proofs.Json.Reread
import TriggerFlow.Proofs.Workflow.Fitness

/-!
Definitions read back from their documents. Every part reads as it was, whatever its text; a graph
only if it uses no node id twice.
-/

namespace TriggerFlow

variable {α β : Type} {source : Source} {key : String} {fs : Fields} {v : Value} {a : α}

namespace Reading

@[simp] theorem map_value (f : α → β) (a : α) : f <$> value a = value (f a) := rfl

@[simp] theorem seq_value (f : α → β) (a : α) : value f <*> value a = value (f a) := rfl

@[simp] theorem under_value (segment : Segment) (a : α) : (value a).under segment = value a := rfl

end Reading

namespace Schema

variable {schema : Value → Reading α}

theorem required_of_get? (found : fs.get? key = some v) (read : schema v = .value a) :
    required key schema fs = .value a := by
  rw [required, found]
  exact Reading.under_eq_value.mpr read

theorem withDefault_of_get? {default : α} (found : fs.get? key = some v)
    (read : schema v = .value a) : withDefault key schema default fs = .value a := by
  rw [withDefault, found]
  exact Reading.under_eq_value.mpr read

/-- Null stands for what is not there, if it stands for nothing that is. -/
theorem optional_ofOption {f : α → Value} (o : Option α) (filled : ∀ a, f a ≠ .null)
    (read : ∀ a, o = some a → schema (f a) = .value a) :
    optional schema (.ofOption f o) = .value o := by
  cases o with
  | none => rfl
  | some a =>
      change optional schema (f a) = .value (some a)
      unfold optional
      split
      · next null => exact absurd null (filled a)
      · rw [read a rfl]
        rfl

theorem optional_text (s : Option String) : optional text (.ofOption .str s) = .value s :=
  optional_ofOption s nofun fun _ _ => rfl

theorem optional_moment (t : Option Moment) : optional moment (.ofOption .time t) = .value t :=
  optional_ofOption t nofun fun _ _ => rfl

theorem optional_map (fs : Option Fields) : optional map (.ofOption .obj fs) = .value fs :=
  optional_ofOption fs nofun fun _ _ => rfl

theorem elems_map {f : α → Value} {xs : List α} (read : ∀ x ∈ xs, schema (f x) = .value x)
    (index : Nat) : elems schema index (xs.map f) = .value xs := by
  induction xs generalizing index with
  | nil => rfl
  | cons x xs ih =>
      rw [List.map_cons, elems, read x List.mem_cons_self, Reading.under_value,
        ih fun y mem => read y (List.mem_cons_of_mem x mem)]
      rfl

/-- A list of documents reads as the list of what they are of. -/
theorem list_map {f : α → Value} {xs : List α} (read : ∀ x ∈ xs, schema (f x) = .value x) :
    list schema (.arr (xs.map f)) = .value xs :=
  elems_map read 0

theorem list_texts (ss : List String) : list text (textsDocument ss) = .value ss :=
  list_map fun _ _ => rfl

end Schema

open Schema

@[simp] theorem Operator.read_name (o : Operator) :
    oneOf all name (.str o.name) = .value o := by
  cases o <;> rfl

@[simp] theorem Logic.read_name (l : Logic) : oneOf all name (.str l.name) = .value l := by
  cases l <;> rfl

@[simp] theorem Trigger.read_name (e : Trigger) : oneOf all name (.str e.name) = .value e := by
  cases e <;> rfl

@[simp] theorem Action.read_name (a : Action) : oneOf all name (.str a.name) = .value a := by
  cases a <;> rfl

@[simp] theorem WorkflowStatus.read_name (s : WorkflowStatus) :
    oneOf all name (.str s.name) = .value s := by
  cases s <;> rfl

theorem Position.read_document (p : Position) : read source p.document = .value p := rfl

theorem Condition.read_document (c : Condition) : read source c.document = .value c := by
  simp [read, document, object, required, withDefault, Fields.get?_cons, text]

theorem Node.read_document (n : Node) : read source n.document = .value n := by
  obtain ⟨id, kind, config, position⟩ := n
  have placed : Position.read source position.document = .value position := position.read_document
  cases kind with
  | trigger e =>
      have tagged : literal "trigger" (.str "trigger") = .value () := rfl
      simp [read, document, tag, isTrigger, readTrigger, object, required, withDefault,
        Fields.get?_cons, text, map, tagged, placed, ofParts]
  | action a =>
      have tagged : literal "action" (.str "action") = .value () := rfl
      simp [read, document, tag, isTrigger, readAction, object, required, withDefault,
        Fields.get?_cons, text, map, tagged, placed, ofParts]

theorem Connection.read_document (c : Connection) : read source c.document = .value c := by
  have conditions : list (Condition.read source) (.arr (c.conditions.map Condition.document)) =
      .value c.conditions := list_map fun d _ => d.read_document
  simp [read, document, object, required, withDefault, Fields.get?_cons, text, conditions]

namespace Graph

theorem readLists_of_get? {g : Graph} (nodes : fs.get? "nodes" = some g.nodesDocument)
    (connections : fs.get? "connections" = some g.connectionsDocument) :
    readLists source fs = .value g := by
  have nodes_read : list (Node.read source) g.nodesDocument = .value g.nodes :=
    list_map fun n _ => n.read_document
  have connections_read : list (Connection.read source) g.connectionsDocument =
      .value g.connections := list_map fun c _ => c.read_document
  rw [readLists, withDefault_of_get? nodes nodes_read,
    withDefault_of_get? connections connections_read]
  rfl

theorem distinct_of_distinct {graph : α → Graph} (once : (graph a).Distinct) :
    distinct graph (.value a) = .value a := by
  have none := duplicateId?_eq_none.mpr once
  simp [distinct, Reading.bind, none]

theorem distinct_of_not_distinct {graph : α → Graph} (twice : ¬ (graph a).Distinct) :
    ∃ id, distinct graph (.value a) = .fail (.duplicateNode id) := by
  cases repeated : (graph a).duplicateId? with
  | none => exact absurd (duplicateId?_eq_none.mp repeated) twice
  | some id => exact ⟨id, by simp [distinct, Reading.bind, repeated]⟩

end Graph

namespace Schema

theorem nullable_text {s : Option String} (found : fs.get? key = some (.ofOption .str s)) :
    nullable key text fs = .value s :=
  withDefault_of_get? found (optional_text s)

theorem nullable_moment {t : Option Moment} (found : fs.get? key = some (.ofOption .time t)) :
    nullable key moment fs = .value t :=
  withDefault_of_get? found (optional_moment t)

theorem required_text {s : String} (found : fs.get? key = some (.str s)) :
    required key text fs = .value s :=
  required_of_get? found rfl

end Schema

/-- A workflow is read from its fields, in whatever order they stand, but for its node ids. -/
theorem Workflow.read_of_get? {w : Workflow}
    (nodes : fs.get? "nodes" = some w.nodesDocument)
    (connections : fs.get? "connections" = some w.connectionsDocument)
    (id : fs.get? "id" = some (.ofOption .str w.id))
    (tenant : fs.get? "tenant_id" = some (.str w.tenant))
    (name : fs.get? "name" = some (.str w.name))
    (description : fs.get? "description" = some (.ofOption .str w.description))
    (status : fs.get? "status" = some (.str w.status.name))
    (tags : fs.get? "tags" = some (textsDocument w.tags))
    (runCount : fs.get? "run_count" = some (.int w.runCount))
    (lastRun : fs.get? "last_run" = some (.ofOption .time w.lastRun))
    (createdBy : fs.get? "created_by" = some (.ofOption .str w.createdBy))
    (createdAt : fs.get? "created_at" = some (.ofOption .time w.createdAt))
    (updatedAt : fs.get? "updated_at" = some (.ofOption .time w.updatedAt)) :
    read source (.obj fs) = Graph.distinct Workflow.toGraph (.value w) := by
  have count : integer (.int w.runCount) = .value w.runCount := rfl
  simp only [read, object, Graph.readLists_of_get? nodes connections, nullable_text id,
    required_text tenant, required_text name, nullable_text description,
    withDefault_of_get? status w.status.read_name, withDefault_of_get? tags (list_texts w.tags),
    withDefault_of_get? runCount count, nullable_moment lastRun, nullable_text createdBy,
    nullable_moment createdAt, nullable_moment updatedAt, Reading.map_value, Reading.seq_value]

theorem Workflow.read_document_eq_distinct (w : Workflow) :
    read source w.document = Graph.distinct Workflow.toGraph (.value w) := by
  apply read_of_get?
  all_goals simp only [Graph.fields, List.cons_append, List.nil_append, Fields.get?_cons]; rfl

/-- The document of a workflow reads as the workflow. -/
theorem Workflow.read_document {w : Workflow} (once : w.toGraph.Distinct) :
    read source w.document = .value w :=
  w.read_document_eq_distinct.trans (Graph.distinct_of_distinct once)

/-- The document of a definition that is carried elsewhere reads as the definition. -/
theorem Portable.read_document {p : Portable} (once : p.toGraph.Distinct) :
    read source p.document = .value p := by
  have nodes : Fields.get? (p.toGraph.fields ++
      [("name", .str p.name), ("description", .ofOption .str p.description),
        ("tags", textsDocument p.tags)]) "nodes" = some p.nodesDocument := rfl
  rw [document, read, object, Graph.readLists_of_get? nodes (by rfl), required_text (by rfl),
    nullable_text (by rfl), withDefault_of_get? (by rfl) (list_texts p.tags)]
  exact Graph.distinct_of_distinct once

/-- Changes are made to the definition itself: reading it anew alters nothing, and refuses it only
if a node id is used twice. -/
theorem Service.changed_eq_ok {c : Changes} {w v : Workflow} :
    changed c w = .ok v ↔ v = c.apply w ∧ (c.apply w).toGraph.Distinct := by
  rw [changed, Reading.toExcept_eq_ok, Workflow.read_document_eq_distinct]
  constructor
  · intro read
    obtain ⟨same, once⟩ := Graph.distinct_eq_value read
    cases same
    exact ⟨rfl, once⟩
  · rintro ⟨rfl, once⟩
    exact Graph.distinct_of_distinct once

/-- What an update makes of a definition: the changed one, if it may be active where it is. -/
theorem Service.changed_then_checked {c : Changes} {w : Workflow}
    (once : (c.apply w).toGraph.Distinct) :
    (do let v ← changed c w; v.checkIfActive; return v : Except Failure Workflow) =
      (c.apply w).checkIfActive.map fun _ => c.apply w := by
  rw [changed_eq_ok.mpr ⟨rfl, once⟩]
  show ((c.apply w).checkIfActive >>= fun _ => .ok (c.apply w)) = _
  cases (c.apply w).checkIfActive <;> rfl

theorem Service.changed_of_not_distinct {c : Changes} {w : Workflow}
    (twice : ¬ (c.apply w).toGraph.Distinct) :
    ∃ id, changed c w = .error (.invalid [.here (.duplicateNode id)]) := by
  rw [changed, Workflow.read_document_eq_distinct]
  obtain ⟨id, read⟩ := Graph.distinct_of_not_distinct twice
  exact ⟨id, congrArg Reading.toExcept read⟩

section Spelling

variable {allowed : Binary64 → Prop}

open Text.Surrogate

/-- An object whose keys differ and are proper text. -/
theorem Value.Spellable.record (keys : List String) (same : fs.map Prod.fst = keys)
    (once : keys.Nodup) (proper : ∀ k ∈ keys, occursIn k = false)
    (fields : (fs.map Prod.snd).Forall (Value.Spellable allowed)) :
    (Value.obj fs).Spellable allowed := by
  subst same
  rw [List.forall_iff_forall_mem] at fields
  refine .obj once (fun f mem => ?_) fun f mem => fields _ (List.mem_map_of_mem mem)
  exact Json.spellable_of_proper (proper _ (List.mem_map_of_mem mem))

theorem Value.Spellable.ofOption {f : α → Value} (o : Option α)
    (each : ∀ a, o = some a → (f a).Spellable allowed) :
    (Value.ofOption f o).Spellable allowed := by
  cases o with
  | none => exact .null
  | some a => exact each a rfl

/-- A condition whose text JSON can spell. -/
structure Condition.Spellable (c : Condition) : Prop where
  id : Json.Spellable c.id.toList
  field : Json.Spellable c.field.toList
  value : Json.Spellable c.value.toList

structure Connection.Spellable (c : Connection) : Prop where
  id : Json.Spellable c.id.toList
  source : Json.Spellable c.source.toList
  target : Json.Spellable c.target.toList
  conditions : ∀ d ∈ c.conditions, d.Spellable

/-- A node whose id JSON can spell, and whose configuration is one that documents can hold. -/
structure Node.Spellable (n : Node) : Prop where
  id : Json.Spellable n.id.toList
  config : (Value.obj n.config).IsPlain

theorem Position.document_spellable {p : Position} (x : allowed p.x) (y : allowed p.y) :
    p.document.Spellable allowed :=
  .record ["x", "y"] rfl (by decide) (by decide) ⟨.float x, .float y⟩

theorem Condition.Spellable.document {c : Condition} (h : c.Spellable) :
    c.document.Spellable allowed := by
  have name : Json.Spellable c.operator.name.toList :=
    Json.spellable_of_proper (by cases c.operator <;> decide)
  exact .record ["id", "field", "operator", "value"] rfl (by decide) (by decide)
    ⟨.str h.id, .str h.field, .str name, .str h.value⟩

theorem Connection.Spellable.document {c : Connection} (h : c.Spellable) :
    c.document.Spellable allowed := by
  have name : Json.Spellable c.logic.name.toList :=
    Json.spellable_of_proper (by cases c.logic <;> decide)
  have conditions : ∀ v ∈ c.conditions.map Condition.document, v.Spellable allowed :=
    List.forall_mem_map.mpr fun d mem => (h.conditions d mem).document
  exact .record ["id", "source", "target", "conditions", "logic"] rfl (by decide) (by decide)
    ⟨.str h.id, .str h.source, .str h.target, .arr conditions, .str name⟩

theorem Node.Spellable.document {n : Node} (h : n.Spellable)
    (finite : ∀ x : Binary64, x.isFinite = true → allowed x)
    (placed : allowed n.position.x ∧ allowed n.position.y) : n.document.Spellable allowed := by
  have tagged : Json.Spellable n.tag.toList :=
    Json.spellable_of_proper (by unfold Node.tag; split <;> decide)
  have config : (Value.obj n.config).Spellable allowed := h.config.mono finite
  have position := Position.document_spellable placed.1 placed.2
  have record {key name : String} (once : ["id", "type", key, "config", "position"].Nodup)
      (proper : ∀ k ∈ ["id", "type", key, "config", "position"], occursIn k = false)
      (named : Json.Spellable name.toList) :
      (Value.obj [("id", .str n.id), ("type", .str n.tag), (key, .str name),
        ("config", .obj n.config), ("position", n.position.document)]).Spellable allowed := by
    exact .record _ rfl once proper ⟨.str h.id, .str tagged, .str named, config, position⟩
  unfold Node.document
  split
  · next e _ =>
    exact record (by decide) (by decide) (Json.spellable_of_proper (by cases e <;> decide))
  · next a _ =>
    exact record (by decide) (by decide) (Json.spellable_of_proper (by cases a <;> decide))

theorem textsDocument_spellable {ss : List String} (h : ∀ s ∈ ss, Json.Spellable s.toList) :
    (textsDocument ss).Spellable allowed :=
  .arr (List.forall_mem_map.mpr fun s mem => .str (h s mem))

/-- A graph whose text JSON can spell. -/
structure Graph.Spellable (g : Graph) : Prop where
  nodes : ∀ n ∈ g.nodes, n.Spellable
  connections : ∀ c ∈ g.connections, c.Spellable

theorem Graph.Spellable.nodesDocument {g : Graph} (h : g.Spellable)
    (finite : ∀ x : Binary64, x.isFinite = true → allowed x)
    (placed : ∀ n ∈ g.nodes, allowed n.position.x ∧ allowed n.position.y) :
    g.nodesDocument.Spellable allowed :=
  .arr (List.forall_mem_map.mpr fun n mem => (h.nodes n mem).document finite (placed n mem))

theorem Graph.Spellable.connectionsDocument {g : Graph} (h : g.Spellable) :
    g.connectionsDocument.Spellable allowed :=
  .arr (List.forall_mem_map.mpr fun c mem => (h.connections c mem).document)

/-- What bytes can carry: text without halves of surrogate pairs, and configurations and positions
that documents can hold as they are. -/
structure Portable.Conveyable (p : Portable) : Prop where
  unicode : p.document.isUnicode = true
  configs : ∀ n ∈ p.nodes, (Value.obj n.config).IsPlain
  placed : ∀ n ∈ p.nodes, n.position.x.isFinite = true ∧ n.position.y.isFinite = true

theorem Value.areUnicode_iff {xs : List Value} :
    Value.areUnicode xs = true ↔ ∀ x ∈ xs, x.isUnicode = true := by
  induction xs with
  | nil => simp [areUnicode]
  | cons x xs ih => simp [areUnicode, ih]

theorem Value.forall_isUnicode_elems {f : α → Value} {xs : List α}
    (unicode : (Value.arr (xs.map f)).isUnicode = true) : ∀ x ∈ xs, (f x).isUnicode = true :=
  List.forall_mem_map.mp (areUnicode_iff.mp unicode)

theorem Value.forall_isUnicode_fields (unicode : (Value.obj fs).isUnicode = true) :
    (fs.map Prod.snd).Forall fun x => x.isUnicode = true := by
  replace unicode : Fields.areUnicode fs = true := unicode
  induction fs with
  | nil => trivial
  | cons f fs ih =>
      simp only [Fields.areUnicode, Bool.and_eq_true] at unicode
      exact (List.forall_cons ..).mpr ⟨unicode.1.2, ih unicode.2⟩

theorem Json.spellable_of_isUnicode {s : String} (unicode : (Value.str s).isUnicode = true) :
    Spellable s.toList :=
  spellable_of_proper (Bool.not_eq_true' _ ▸ unicode)

theorem Condition.spellable_of_isUnicode {c : Condition} (unicode : c.document.isUnicode = true) :
    c.Spellable := by
  obtain ⟨id, field, -, value⟩ := Value.forall_isUnicode_fields unicode
  exact ⟨Json.spellable_of_isUnicode id, Json.spellable_of_isUnicode field,
    Json.spellable_of_isUnicode value⟩

theorem Connection.spellable_of_isUnicode {c : Connection}
    (unicode : c.document.isUnicode = true) : c.Spellable := by
  obtain ⟨id, source, target, conditions, -⟩ := Value.forall_isUnicode_fields unicode
  have conditions := Value.forall_isUnicode_elems conditions
  exact ⟨Json.spellable_of_isUnicode id, Json.spellable_of_isUnicode source,
    Json.spellable_of_isUnicode target,
    fun d mem => Condition.spellable_of_isUnicode (conditions d mem)⟩

theorem Node.spellable_of_isUnicode {n : Node} (unicode : n.document.isUnicode = true)
    (config : (Value.obj n.config).IsPlain) : n.Spellable :=
  ⟨Json.spellable_of_isUnicode (Value.forall_isUnicode_fields unicode).1, config⟩

/-- Its document is one that JSON text can spell, with finite numbers. -/
theorem Portable.Conveyable.isPlain {p : Portable} (h : p.Conveyable) : p.document.IsPlain := by
  obtain ⟨nodes, connections, name, description, tags⟩ := Value.forall_isUnicode_fields h.unicode
  have graph : p.toGraph.Spellable := {
    nodes n mem :=
      Node.spellable_of_isUnicode (Value.forall_isUnicode_elems nodes n mem) (h.configs n mem)
    connections c mem :=
      Connection.spellable_of_isUnicode (Value.forall_isUnicode_elems connections c mem) }
  have described : (Value.ofOption .str p.description).IsPlain := .ofOption _ fun s given => by
    rw [given] at description
    exact .str (Json.spellable_of_isUnicode description)
  have tagged (t : String) (mem : t ∈ p.tags) : Json.Spellable t.toList :=
    Json.spellable_of_isUnicode (Value.forall_isUnicode_elems tags t mem)
  exact .record ["nodes", "connections", "name", "description", "tags"] rfl (by decide) (by decide)
    ⟨graph.nodesDocument (fun _ finite => finite) h.placed, graph.connectionsDocument,
      .str (Json.spellable_of_isUnicode name), described, textsDocument_spellable tagged⟩

end Spelling
end TriggerFlow
