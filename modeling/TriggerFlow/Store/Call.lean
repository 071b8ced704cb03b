import TriggerFlow.Execution.Basic
import TriggerFlow.Workflow.Basic

/-!
What a store of workflows and records is asked, and what it answers. Every call may fail.
-/

namespace TriggerFlow.Store

inductive Call where
  | createWorkflow (w : Workflow)
  | getWorkflow (id tenant : String)
  | listWorkflows (tenant : String) (status search : Option String)
  | updateWorkflow (w : Workflow)
  | deleteWorkflow (id tenant : String)
  | incrementRunCount (id : Option String) (tenant : String) (finish : Moment)
  | saveExecution (e : Execution)
  | markCancelled (id tenant : String) (finish : Moment)
  | getExecution (id tenant : String)
  | listExecutions (workflow tenant : String) (limit : Int)

def Result : Call → Type
  | .createWorkflow _ | .updateWorkflow _ => Workflow
  | .getWorkflow _ _ => Option Workflow
  | .listWorkflows _ _ _ => List Workflow
  | .deleteWorkflow _ _ => Bool
  | .incrementRunCount _ _ _ | .saveExecution _ => Unit
  | .markCancelled _ _ _ | .getExecution _ _ => Option Execution
  | .listExecutions _ _ _ => List Execution

abbrev Reply (c : Call) : Type := Except Failure (Result c)

def Call.name : Call → String
  | .createWorkflow _ => "create_workflow"
  | .getWorkflow _ _ => "get_workflow"
  | .listWorkflows _ _ _ => "list_workflows"
  | .updateWorkflow _ => "update_workflow"
  | .deleteWorkflow _ _ => "delete_workflow"
  | .incrementRunCount _ _ _ => "increment_run_count"
  | .saveExecution _ => "save_execution"
  | .markCancelled _ _ _ => "mark_cancelled"
  | .getExecution _ _ => "get_execution"
  | .listExecutions _ _ _ => "list_executions"

end TriggerFlow.Store
