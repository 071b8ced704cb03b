import TriggerFlow.Execution.Document
import TriggerFlow.Proofs.Time.Iso
import TriggerFlow.Proofs.Workflow.Documents

/-!
The steps of a run read back from their documents, in which moments are text.
-/

namespace TriggerFlow

open Schema

variable {source : Source} {t : Moment}

theorem Moment.InUtc.moment_documentText (h : t.InUtc) :
    moment (.str t.documentText) = .value t := by
  have legible : Text.Surrogate.occursIn t.documentText = false := any_documentText h.utc
  have calendar : t.inCalendar = true := decide_eq_true h.earliest
  simp [moment, Schema.legible, legible, h.ofText?_documentText, momentOr, calendar]

@[simp] theorem StepStatus.read_name (s : StepStatus) :
    oneOf all name (.str s.name) = .value s := by
  cases s <;> rfl

@[simp] theorem ExecutionStatus.read_name (s : ExecutionStatus) :
    oneOf all name (.str s.name) = .value s := by
  cases s <;> rfl

/-- A moment as the text of a document. -/
def Moment.written (t : Moment) : Value := .str t.documentText

namespace Step

variable {s : Step}

/-- A step as it is written, with its moments as text. -/
def written (s : Step) : Value :=
  .obj [("id", .str s.id), ("node_id", .str s.node), ("node_name", .str s.nodeName),
    ("status", .str s.status.name), ("start_time", s.start.written),
    ("end_time", .ofOption Moment.written s.finish), ("error", .ofOption .str s.error),
    ("output", .ofOption .obj s.output)]

/-- A step whose moments are of UTC, whose text JSON can spell, and whose output is one that
documents can hold. -/
structure Spellable (s : Step) : Prop where
  id : Json.Spellable s.id.toList
  node : Json.Spellable s.node.toList
  nodeName : Json.Spellable s.nodeName.toList
  start : s.start.InUtc
  finish : ∀ t, s.finish = some t → t.InUtc
  error : ∀ e, s.error = some e → Json.Spellable e.toList
  output : ∀ fs, s.output = some fs → (Value.obj fs).IsPlain

theorem Spellable.plain_document (h : s.Spellable) : s.document.plain = s.written := by
  obtain ⟨id, node, nodeName, status, start, finish, error, output⟩ := s
  have same : (Value.ofOption .obj output).plain = .ofOption .obj output := by
    cases output with
    | none => rfl
    | some fs => exact (h.output fs rfl).plain_eq
  have text : (Value.ofOption .str error).plain = .ofOption .str error := by
    cases error <;> rfl
  have time : (Value.ofOption .time finish).plain = .ofOption Moment.written finish := by
    cases finish <;> rfl
  simp [document, written, Value.plain, Fields.plain, same, text, time, Moment.written]

theorem Spellable.read_written (h : s.Spellable) : read source s.written = .value s := by
  have finish : optional moment (.ofOption Moment.written s.finish) = .value s.finish :=
    optional_ofOption s.finish nofun fun t some => (h.finish t some).moment_documentText
  have start : moment s.start.written = .value s.start := h.start.moment_documentText
  simp [read, written, object, required, withDefault, nullable, Fields.get?_cons, text, start,
    finish, optional_text, optional_map]

theorem Spellable.written_spellable (h : s.Spellable) :
    s.written.Spellable fun x => x.isFinite = true := by
  have time {t : Moment} (h : t.InUtc) : t.written.Spellable fun x => x.isFinite = true :=
    .str (Json.spellable_of_proper (Moment.any_documentText h.utc))
  have name : Json.Spellable s.status.name.toList :=
    Json.spellable_of_proper (by cases s.status <;> decide)
  exact .record
    ["id", "node_id", "node_name", "status", "start_time", "end_time", "error", "output"]
    rfl (by decide) (by decide)
    ⟨.str h.id, .str h.node, .str h.nodeName, .str name, time h.start,
      .ofOption _ fun t some => time (h.finish t some),
      .ofOption _ fun e some => .str (h.error e some), .ofOption _ h.output⟩

end Step

namespace Execution

variable {e : Execution}

theorem plain_stepsDocument (spellable : ∀ s ∈ e.steps, s.Spellable) :
    e.stepsDocument.plain = .arr (e.steps.map Step.written) := by
  have each : Value.plainElems (e.steps.map Step.document) = e.steps.map Step.written := by
    generalize e.steps = steps at spellable
    induction steps with
    | nil => rfl
    | cons s steps ih =>
        rw [List.map_cons, Value.plainElems, (spellable s List.mem_cons_self).plain_document,
          ih fun t mem => spellable t (List.mem_cons_of_mem s mem)]
        rfl
  exact congrArg Value.arr each

theorem steps_spellable (spellable : ∀ s ∈ e.steps, s.Spellable) :
    (Value.arr (e.steps.map Step.written)).IsPlain :=
  .arr (List.forall_mem_map.mpr fun s mem => (spellable s mem).written_spellable)

/-- A record is read from its fields, with its steps as they are written. -/
theorem read_of_get? {fs : Fields} (id : fs.get? "id" = some (.str e.id))
    (workflow : fs.get? "workflow_id" = some (.str e.workflow))
    (tenant : fs.get? "tenant_id" = some (.str e.tenant))
    (status : fs.get? "status" = some (.str e.status.name))
    (triggerData : fs.get? "trigger_data" = some (.obj e.triggerData))
    (steps : fs.get? "steps" = some (.arr (e.steps.map Step.written)))
    (startedAt : fs.get? "started_at" = some (.time e.startedAt))
    (completedAt : fs.get? "completed_at" = some (.ofOption .time e.completedAt))
    (error : fs.get? "error" = some (.ofOption .str e.error))
    (spellable : ∀ s ∈ e.steps, s.Spellable) : read source (.obj fs) = .value e := by
  have written : list (Step.read source) (.arr (e.steps.map Step.written)) = .value e.steps :=
    list_map fun s mem => (spellable s mem).read_written
  have data : Schema.map (.obj e.triggerData) = .value e.triggerData := rfl
  have start : moment (.time e.startedAt) = .value e.startedAt := rfl
  simp only [read, object, required_text id, required_text workflow, required_text tenant,
    withDefault_of_get? status e.status.read_name, withDefault_of_get? triggerData data,
    withDefault_of_get? steps written, required_of_get? startedAt start,
    nullable_moment completedAt, nullable_text error, Reading.map_value, Reading.seq_value]

end Execution
end TriggerFlow
