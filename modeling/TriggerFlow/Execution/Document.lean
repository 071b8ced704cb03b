import TriggerFlow.Execution.Basic
import TriggerFlow.Workflow.Document

/-!
Records of runs as documents, written and read.
-/

namespace TriggerFlow

open Schema

namespace Step

def document (s : Step) : Value :=
  .obj [("id", .str s.id), ("node_id", .str s.node), ("node_name", .str s.nodeName),
    ("status", .str s.status.name), ("start_time", .time s.start),
    ("end_time", .ofOption .time s.finish), ("error", .ofOption .str s.error),
    ("output", .ofOption .obj s.output)]

def read (source : Source) : Value → Reading Step :=
  object source "ExecutionStep" fun fs =>
    Step.mk <$> required "id" text fs <*> required "node_id" text fs <*>
      required "node_name" text fs <*>
      withDefault "status" (oneOf StepStatus.all StepStatus.name) .pending fs <*>
      required "start_time" moment fs <*> nullable "end_time" moment fs <*>
      nullable "error" text fs <*> nullable "output" Schema.map fs

end Step

namespace Execution

def stepsDocument (e : Execution) : Value := .arr (e.steps.map Step.document)

def document (e : Execution) : Value :=
  .obj [("id", .str e.id), ("workflow_id", .str e.workflow), ("tenant_id", .str e.tenant),
    ("status", .str e.status.name), ("trigger_data", .obj e.triggerData),
    ("steps", e.stepsDocument), ("started_at", .time e.startedAt),
    ("completed_at", .ofOption .time e.completedAt), ("error", .ofOption .str e.error)]

def read (source : Source) : Value → Reading Execution :=
  object source "WorkflowExecution" fun fs =>
    Execution.mk <$> required "id" text fs <*> required "workflow_id" text fs <*>
      required "tenant_id" text fs <*>
      withDefault "status" (oneOf ExecutionStatus.all ExecutionStatus.name) .running fs <*>
      withDefault "trigger_data" Schema.map [] fs <*>
      withDefault "steps" (list (Step.read source)) [] fs <*> required "started_at" moment fs <*>
      nullable "completed_at" moment fs <*> nullable "error" text fs

end Execution

namespace Summary

def document (s : Summary) : Value :=
  .obj [("id", .str s.id), ("workflow_id", .str s.workflow), ("status", .str s.status.name),
    ("started_at", .time s.startedAt), ("completed_at", .ofOption .time s.completedAt),
    ("step_count", .int s.stepCount), ("duration_ms", .ofOption .int s.duration),
    ("error", .ofOption .str s.error)]

def read (source : Source) : Value → Reading Summary :=
  object source "ExecutionSummary" fun fs =>
    Summary.mk <$> required "id" text fs <*> required "workflow_id" text fs <*>
      required "status" (oneOf ExecutionStatus.all ExecutionStatus.name) fs <*>
      required "started_at" moment fs <*> nullable "completed_at" moment fs <*>
      withDefault "step_count" integer 0 fs <*> nullable "duration_ms" integer fs <*>
      nullable "error" text fs

end Summary
end TriggerFlow
