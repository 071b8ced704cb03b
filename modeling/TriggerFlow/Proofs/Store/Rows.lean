import TriggerFlow.Proofs.Execution.Documents
import TriggerFlow.Store.Sql

/-!
Rows read back. A row that holds what was sent to be stored gives the definition or the record that
it was sent for, whether the driver leaves JSON as text or decodes it. Texts in JSON must not have
the halves of a surrogate pair side by side: JSON spells these as it spells the character.
-/

namespace TriggerFlow.Store.Sql

open Schema

variable {w : Workflow} {e : Execution} {id : String} {v x : Value} {row : Fields}

/-- A column that is written to. -/
structure Column where
  name : String
  isJson : Bool

/-- What a column may give for what it was sent: the same, or what JSON text is of. -/
inductive Gives : Bool → Argument → Value → Prop
  | sent {isJson : Bool} (v : Value) : Gives isJson (.value v) v
  | decoded {s : String} {v : Value} (read : Json.read s = .ok v) : Gives true (string s) v

/-- A row that gives arguments in their columns; it may have other columns. -/
def Holds (row : Fields) (columns : List Column) (arguments : List Argument) : Prop :=
  List.Forall₂ (fun c a => ∃ v, row.get? c.name = some v ∧ Gives c.isJson a v) columns arguments

def workflowColumns : List Column :=
  [⟨"id", false⟩, ⟨"tenant_id", false⟩, ⟨"name", false⟩, ⟨"description", false⟩, ⟨"status", false⟩,
    ⟨"nodes", true⟩, ⟨"connections", true⟩, ⟨"tags", true⟩, ⟨"run_count", false⟩,
    ⟨"created_by", false⟩]

example : insertWorkflowText = "INSERT INTO automation_workflows (" ++
    Text.join ", " (workflowColumns.map (·.name)) ++
    ") VALUES ($1, $2, $3, $4, $5, $6, $7, $8, $9, $10) RETURNING *" := by
  decide +kernel

def executionColumns : List Column :=
  [⟨"id", false⟩, ⟨"workflow_id", false⟩, ⟨"tenant_id", false⟩, ⟨"status", false⟩,
    ⟨"trigger_data", true⟩, ⟨"steps", true⟩, ⟨"error", false⟩, ⟨"started_at", false⟩,
    ⟨"completed_at", false⟩]

theorem gives_value : Gives false (.value x) v ↔ v = x := by
  constructor
  · rintro ⟨⟩
    rfl
  · rintro rfl
    exact .sent v

/-- Columns of JSON are loaded as what their text is of. -/
theorem load_of_gives {s : String} {default : Value} (read : Json.read s = .ok x)
    (h : Gives true (string s) v) (other : ∀ t, x ≠ .str t)
    (empty : x.isEmpty = true → x = default) : load v default = .ok x := by
  have loaded : load v default = .ok (if x.isEmpty then default else x) := by
    cases h with
    | sent =>
        simp only [load, read]
        rfl
    | decoded again =>
        cases read.symm.trans again
        unfold load
        split
        · next t => exact absurd rfl (other t)
        · rfl
  rw [loaded]
  split
  · next nothing => rw [empty nothing]
  · rfl

theorem load_list {s : String} {xs : List Value} (read : Json.read s = .ok (.arr xs))
    (h : Gives true (string s) v) : load v (.arr []) = .ok (.arr xs) := by
  refine load_of_gives read h nofun fun empty => ?_
  rw [List.isEmpty_iff.mp empty]

theorem load_object {s : String} {fs : Fields} (read : Json.read s = .ok (.obj fs))
    (h : Gives true (string s) v) : load v (.obj []) = .ok (.obj fs) := by
  refine load_of_gives read h nofun fun empty => ?_
  rw [List.isEmpty_iff.mp empty]

theorem statusOf_name (s : WorkflowStatus) : statusOf (.str s.name) = .ok s := by
  cases s <;> rfl

theorem zero_for_empty (n : Int) :
    (if (Value.int n).isEmpty then Value.int 0 else Value.int n) = .int n := by
  split
  · next zero => rw [of_decide_eq_true zero]
  · rfl

theorem insertWorkflowArguments_of_written {nodes connections tags : String}
    (n : Json.write .spaced (nodesColumn w.toGraph) = .ok nodes)
    (c : Json.write .spaced w.connectionsDocument = .ok connections)
    (t : Json.write .spaced (textsDocument w.tags) = .ok tags) :
    insertWorkflowArguments id w = .ok [string id, string w.tenant, string w.name,
      stringOrNull w.description, string w.status.name, string nodes, string connections,
      string tags, .value (.int w.runCount), stringOrNull w.createdBy] := by
  simp only [insertWorkflowArguments, definitionArguments, json, n, c, t]
  rfl

theorem saveExecutionArguments_of_written {data steps : String}
    (d : Json.write .spaced (.obj (Fields.plain e.triggerData)) = .ok data)
    (s : Json.write .spaced e.stepsDocument.plain = .ok steps) :
    saveExecutionArguments e = .ok [string e.id, string e.workflow, string e.tenant,
      string e.status.name, string data, string steps, stringOrNull e.error,
      .value (.time e.startedAt), .value (.ofOption .time e.completedAt)] := by
  simp only [saveExecutionArguments, json, d, s]
  rfl

/-- A definition that reads back: it has an id, uses no node id twice, and its columns of JSON hold
what JSON can spell. -/
structure Storable (id : String) (w : Workflow) : Prop where
  named : w.id = some id
  filled : id ≠ ""
  once : w.toGraph.Distinct
  graph : w.toGraph.Spellable
  tags : ∀ t ∈ w.tags, Json.Spellable t.toList

/-- A definition with an id is sent in one statement, under that id. -/
theorem Storable.createWorkflow_eq (h : Storable id w) {arguments : List Argument}
    (sent : insertWorkflowArguments id w = .ok arguments) : createWorkflow w =
      (do return (← send .fetchRow insertWorkflowText arguments) >>= workflowOfRow) := by
  have own : w.id.filter (· != "") = some id := by
    simp [h.named, Option.filter, h.filled]
  simp only [createWorkflow, own, pure, bind, Program.bind, sent]

theorem nodesColumn_eq {g : Graph} (h : g.Spellable) : nodesColumn g = g.nodesDocument := by
  have each : ∀ n ∈ g.nodes, storedNode n = id n := fun n mem => by
    rw [storedNode, Fields.plain_of_plain (h.nodes n mem).config]
    rfl
  have same : g.nodes.map storedNode = g.nodes := (List.map_congr_left each).trans (List.map_id _)
  rw [nodesColumn, same]

/-- A row of a definition that was sent gives that definition, with its times. -/
theorem workflowOfRow_of_holds (h : Storable id w) : ∃ arguments,
    insertWorkflowArguments id w = .ok arguments ∧
      ∀ (row : Fields) (lastRun createdAt updatedAt : Option Moment),
        Holds row workflowColumns arguments →
        row.get? "last_run" = some (.ofOption .time lastRun) →
        row.get? "created_at" = some (.ofOption .time createdAt) →
        row.get? "updated_at" = some (.ofOption .time updatedAt) →
        workflowOfRow (.obj row) =
          .ok { w with lastRun := lastRun, createdAt := createdAt, updatedAt := updatedAt } := by
  have spellable : w.nodesDocument.Spellable fun _ => True :=
    h.graph.nodesDocument (fun _ _ => trivial) fun _ _ => ⟨trivial, trivial⟩
  obtain ⟨nodes, nodes_written, nodes_read⟩ := Json.read_of_write spellable
  have spellable : w.connectionsDocument.Spellable fun _ => True := h.graph.connectionsDocument
  obtain ⟨connections, connections_written, connections_read⟩ := Json.read_of_write spellable
  have spellable : (textsDocument w.tags).Spellable fun _ => True := textsDocument_spellable h.tags
  obtain ⟨tags, tags_written, tags_read⟩ := Json.read_of_write spellable
  rw [← nodesColumn_eq h.graph] at nodes_written
  refine ⟨_, insertWorkflowArguments_of_written nodes_written connections_written tags_written, ?_⟩
  intro row lastRun createdAt updatedAt holds ran created updated
  simp only [Holds, workflowColumns, List.forall₂_cons, string, stringOrNull, gives_value,
    exists_eq_right] at holds
  obtain ⟨id_at, tenant_at, name_at, description_at, status_at, ⟨_, nodes_at, nodes_given⟩,
    ⟨_, connections_at, connections_given⟩, ⟨_, tags_at, tags_given⟩, count_at, creator_at, -⟩ :=
    holds
  simp only [workflowOfRow, rowFields, column, id_at, tenant_at, name_at, description_at, status_at,
    nodes_at, connections_at, tags_at, count_at, creator_at, ran, created, updated, Value.setting,
    bind, Except.bind, statusOf_name, load_list nodes_read nodes_given,
    load_list connections_read connections_given, load_list tags_read tags_given, zero_for_empty]
  have once : { w with lastRun, createdAt, updatedAt }.toGraph.Distinct := h.once
  rw [reported, Workflow.read_of_get? (w := { w with lastRun, createdAt, updatedAt }),
    Graph.distinct_of_distinct once]
  -- Every part stands in the document under its key.
  all_goals simp only [Fields.get?_cons, h.named]; rfl

/-- A record that reads back: its trigger data and its steps hold what JSON can spell. -/
structure Savable (e : Execution) : Prop where
  triggerData : (Value.obj e.triggerData).IsPlain
  steps : ∀ s ∈ e.steps, s.Spellable

/-- A row of a record that was sent gives that record. -/
theorem executionOfRow_of_holds (h : Savable e) : ∃ arguments,
    saveExecutionArguments e = .ok arguments ∧
      ∀ row : Fields, Holds row executionColumns arguments → executionOfRow (.obj row) = .ok e := by
  obtain ⟨data, data_written, data_read⟩ := Json.read_of_write h.triggerData
  obtain ⟨steps, steps_written, steps_read⟩ :=
    Json.read_of_write (Execution.steps_spellable h.steps)
  rw [← Execution.plain_stepsDocument h.steps] at steps_written
  rw [← Fields.plain_of_plain h.triggerData] at data_written
  refine ⟨_, saveExecutionArguments_of_written data_written steps_written, fun row holds => ?_⟩
  simp only [Holds, executionColumns, List.forall₂_cons, string, stringOrNull, gives_value,
    exists_eq_right] at holds
  obtain ⟨id_at, workflow_at, tenant_at, status_at, ⟨_, data_at, data_given⟩,
    ⟨_, steps_at, steps_given⟩, error_at, start_at, finish_at, -⟩ := holds
  simp only [executionOfRow, rowFields, column, id_at, workflow_at, tenant_at, status_at, data_at,
    steps_at, error_at, start_at, finish_at, Value.setting, bind, Except.bind,
    load_object data_read data_given, load_list steps_read steps_given]
  rw [reported, Execution.read_of_get? (e := e)]
  case spellable => exact h.steps
  all_goals simp only [Fields.get?_cons]; rfl

/-- A definition whose configuration holds text past ASCII and numbers. -/
def storedSample : Workflow where
  nodes := [⟨"t", .trigger .webhook, [("note", .str "é"), ("limits", .arr [.int 3, .float .zero])],
    .origin⟩]
  connections := [⟨"c", "t", "t", [⟨"d", "trigger.n", .greaterThan, "1"⟩], .or⟩]
  id := some "11111111-1111-4111-8111-111111111111"
  tenant := "tenant"
  name := "sample"
  description := none
  status := .draft
  tags := ["a"]
  runCount := 0
  lastRun := none
  createdBy := none
  createdAt := none
  updatedAt := none

def storedNodes : String :=
  "[\x7b\"id\": \"t\", \"type\": \"trigger\", \"trigger_type\": \"webhook\", " ++
  "\"config\": \x7b\"note\": \"\\u00e9\", \"limits\": [3, 0.0]\x7d, " ++
  "\"position\": \x7b\"x\": 0.0, \"y\": 0.0\x7d\x7d]"

def storedConnections : String :=
  "[\x7b\"id\": \"c\", \"source\": \"t\", \"target\": \"t\", \"conditions\": " ++
  "[\x7b\"id\": \"d\", \"field\": \"trigger.n\", \"operator\": \"greater_than\", " ++
  "\"value\": \"1\"\x7d], \"logic\": \"OR\"\x7d]"

/-- A row of the definition, with its nodes as text and its connections decoded. -/
def storedRow : Fields :=
  [("id", .str "11111111-1111-4111-8111-111111111111"), ("tenant_id", .str "tenant"),
    ("name", .str "sample"), ("description", .null), ("status", .str "draft"),
    ("nodes", .str storedNodes), ("connections", storedSample.connectionsDocument),
    ("tags", .str "[\"a\"]"), ("run_count", .int 0), ("last_run", .null), ("created_by", .null),
    ("created_at", .time (.utc 1000000)), ("updated_at", .time (.utc 2000000))]

/-- A record with a step that ended on a fraction of a second. -/
def savedSample : Execution where
  id := "00000000-0001-4000-8000-000000000000"
  workflow := "11111111-1111-4111-8111-111111111111"
  tenant := "tenant"
  status := .completed
  triggerData := [("n", .int 2)]
  steps := [⟨"s", "t", "webhook", .success, .utc 1000000, some (.utc 2500000), none,
    some [("triggered_by", .str "webhook")]⟩]
  startedAt := .utc 0
  completedAt := some (.utc 3000000)
  error := none

def savedSteps : String :=
  "[\x7b\"id\": \"s\", \"node_id\": \"t\", \"node_name\": \"webhook\", " ++
  "\"status\": \"success\", \"start_time\": \"1970-01-01T00:00:01Z\", " ++
  "\"end_time\": \"1970-01-01T00:00:02.500000Z\", \"error\": null, " ++
  "\"output\": \x7b\"triggered_by\": \"webhook\"\x7d\x7d]"

def savedRow : Fields :=
  [("id", .str "00000000-0001-4000-8000-000000000000"),
    ("workflow_id", .str "11111111-1111-4111-8111-111111111111"), ("tenant_id", .str "tenant"),
    ("status", .str "completed"), ("trigger_data", .str "\x7b\"n\": 2\x7d"),
    ("steps", .str savedSteps), ("error", .null), ("started_at", .time (.utc 0)),
    ("completed_at", .time (.utc 3000000))]

theorem spellable_digit {n : Int} {allowed : Binary64 → Prop} (small : n.natAbs < 10) :
    (Value.int n).Spellable allowed :=
  .int (Nat.lt_of_lt_of_le small (Nat.le_self_pow (by decide) 10))

theorem storable_storedSample : Storable "11111111-1111-4111-8111-111111111111" storedSample where
  named := rfl
  filled := by decide
  once := by simp [Graph.Distinct, storedSample]
  graph := by
    have proper {s : String} (h : Text.Surrogate.occursIn s = false) : Json.Spellable s.toList :=
      Json.spellable_of_proper h
    have limits : (Value.arr [.int 3, .float .zero]).IsPlain := by
      refine .arr ?_
      simp only [List.forall_mem_cons]
      exact ⟨spellable_digit (by decide), .float rfl, List.forall_mem_nil _⟩
    have config :
        (Value.obj [("note", .str "é"), ("limits", .arr [.int 3, .float .zero])]).IsPlain := by
      exact .record ["note", "limits"] rfl (by decide) (by decide)
        ⟨.str (proper (by decide)), limits⟩
    have conditions : ∀ c ∈ [(⟨"d", "trigger.n", .greaterThan, "1"⟩ : Condition)], c.Spellable :=
      List.forall_mem_singleton.mpr ⟨proper (by decide), proper (by decide), proper (by decide)⟩
    exact ⟨List.forall_mem_singleton.mpr ⟨proper (by decide), config⟩, List.forall_mem_singleton.mpr
      ⟨proper (by decide), proper (by decide), proper (by decide), conditions⟩⟩
  tags := List.forall_mem_singleton.mpr (Json.spellable_of_proper (by decide))

def recorded (output : Fields) : Execution :=
  { savedSample with
    steps := [⟨"s", "t", "webhook", .success, .utc 1000000, some (.utc 2500000), none,
      some output⟩] }

theorem savable_recorded {output : Fields} (plain : (Value.obj output).IsPlain) :
    Savable (recorded output) where
  triggerData := by
    change (Value.obj [("n", .int 2)]).IsPlain
    exact .record ["n"] rfl (by decide) (by decide) (spellable_digit (by decide))
  steps := by
    have proper {s : String} (h : Text.Surrogate.occursIn s = false) : Json.Spellable s.toList :=
      Json.spellable_of_proper h
    have start : (Moment.utc 1000000).InUtc := ⟨⟨by decide, by decide⟩, rfl⟩
    have finish : (Moment.utc 2500000).InUtc := ⟨⟨by decide, by decide⟩, rfl⟩
    exact List.forall_mem_singleton.mpr {
      id := proper (s := "s") (by decide)
      node := proper (s := "t") (by decide)
      nodeName := proper (s := "webhook") (by decide)
      start
      finish := by
        rintro _ ⟨⟩
        exact finish
      error := nofun
      output := by
        rintro _ ⟨⟩
        exact plain }

theorem savable_savedSample : Savable savedSample :=
  savable_recorded (.record ["triggered_by"] rfl (by decide) (by decide)
    (.str (Json.spellable_of_proper (by decide))))

theorem holds_storedRow : ∃ arguments,
    insertWorkflowArguments "11111111-1111-4111-8111-111111111111" storedSample = .ok arguments ∧
      Holds storedRow workflowColumns arguments := by
  have nodes : Json.write .spaced (nodesColumn storedSample.toGraph) = .ok storedNodes := by
    decide +kernel
  have connections : Json.write .spaced storedSample.connectionsDocument =
      .ok storedConnections := by decide +kernel
  have tags : Json.write .spaced (textsDocument storedSample.tags) = .ok "[\"a\"]" := by
    decide +kernel
  have spellable : storedSample.connectionsDocument.Spellable fun _ => True :=
    storable_storedSample.graph.connectionsDocument
  refine ⟨_, insertWorkflowArguments_of_written nodes connections tags, ?_⟩
  simp only [Holds, workflowColumns, List.forall₂_cons, storedRow]
  exact ⟨⟨_, rfl, .sent _⟩, ⟨_, rfl, .sent _⟩, ⟨_, rfl, .sent _⟩, ⟨_, rfl, .sent _⟩,
    ⟨_, rfl, .sent _⟩, ⟨_, rfl, .sent _⟩,
    ⟨_, rfl, .decoded (Json.read_of_written spellable connections)⟩, ⟨_, rfl, .sent _⟩,
    ⟨_, rfl, .sent _⟩, ⟨_, rfl, .sent _⟩, .nil⟩

theorem holds_recorded {output : Fields} {text : String}
    (written : Json.write .spaced (recorded output).stepsDocument.plain = .ok text) : ∃ arguments,
    saveExecutionArguments (recorded output) = .ok arguments ∧
      Holds (savedRow.set "steps" (.str text)) executionColumns arguments := by
  have data : Json.write .spaced (.obj (Fields.plain savedSample.triggerData)) =
      .ok "\x7b\"n\": 2\x7d" := by decide +kernel
  refine ⟨_, saveExecutionArguments_of_written (e := recorded output) data written, ?_⟩
  simp only [Holds, executionColumns, List.forall₂_cons, savedRow]
  exact ⟨⟨_, rfl, .sent _⟩, ⟨_, rfl, .sent _⟩, ⟨_, rfl, .sent _⟩, ⟨_, rfl, .sent _⟩,
    ⟨_, rfl, .sent _⟩, ⟨_, rfl, .sent _⟩, ⟨_, rfl, .sent _⟩, ⟨_, rfl, .sent _⟩,
    ⟨_, rfl, .sent _⟩, .nil⟩

/-- The two halves of a surrogate pair, side by side. -/
def splitPair : String :=
  String.ofList [Text.Surrogate.charOf 0xd83d, Text.Surrogate.charOf 0xde00]

/-- The steps of a record with the halves in its output, and with the character of the pair. -/
def pairSteps : String :=
  "[\x7b\"id\": \"s\", \"node_id\": \"t\", \"node_name\": \"webhook\", " ++
  "\"status\": \"success\", \"start_time\": \"1970-01-01T00:00:01Z\", " ++
  "\"end_time\": \"1970-01-01T00:00:02.500000Z\", \"error\": null, " ++
  "\"output\": \x7b\"message\": \"\\ud83d\\ude00\"\x7d\x7d]"

end TriggerFlow.Store.Sql
