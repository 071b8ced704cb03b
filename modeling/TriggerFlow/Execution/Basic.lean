import TriggerFlow.Failure
import TriggerFlow.Json.Value

/-!
The record of a run: one step for every visit of a node and one for every connection not followed.
A summary counts the steps and gives the duration in whole milliseconds.
-/

namespace TriggerFlow

inductive ExecutionStatus where
  | running
  | completed
  | failed
  | cancelled
  deriving DecidableEq, Repr

namespace ExecutionStatus

def name : ExecutionStatus → String
  | running => "running"
  | completed => "completed"
  | failed => "failed"
  | cancelled => "cancelled"

def all : List ExecutionStatus := [running, completed, failed, cancelled]

def ofName? (s : String) : Option ExecutionStatus := all.find? (·.name == s)

end ExecutionStatus

inductive StepStatus where
  | pending
  | running
  | success
  | failed
  | skipped
  deriving DecidableEq, Repr

namespace StepStatus

def name : StepStatus → String
  | pending => "pending"
  | running => "running"
  | success => "success"
  | failed => "failed"
  | skipped => "skipped"

def all : List StepStatus := [pending, running, success, failed, skipped]

end StepStatus

structure Step where
  id : String
  node : String
  nodeName : String
  status : StepStatus
  start : Moment
  finish : Option Moment
  error : Option String
  output : Option Fields
  deriving Repr

structure Execution where
  id : String
  workflow : String
  tenant : String
  status : ExecutionStatus
  triggerData : Fields
  steps : List Step
  startedAt : Moment
  completedAt : Option Moment
  error : Option String
  deriving Repr

structure Summary where
  id : String
  workflow : String
  status : ExecutionStatus
  startedAt : Moment
  completedAt : Option Moment
  stepCount : Int
  duration : Option Int
  error : Option String
  deriving Repr

namespace Execution

def isFinished (e : Execution) : Bool := e.status != .running

theorem isFinished_eq_false {e : Execution} : e.isFinished = false ↔ e.status = .running := by
  simp [isFinished]

/-- The step in which a node succeeded, if it has. -/
def successfulStep? (e : Execution) (node : String) : Option Step :=
  e.steps.find? fun s => s.node == node && s.status == .success

def addStep (e : Execution) (s : Step) : Execution := { e with steps := e.steps ++ [s] }

/-- The record with the last step of the same id replaced. -/
def replaceStep (e : Execution) (s : Step) : Execution :=
  let steps := e.steps.reverse
  { e with steps := (steps.set (steps.findIdx (·.id == s.id)) s).reverse }

theorem replaceStep_addStep (e : Execution) {s t : Step} (h : s.id = t.id) :
    (e.addStep s).replaceStep t = e.addStep t := by
  simp [replaceStep, addStep, List.findIdx_cons, h]

/-- Whether every node that succeeded in one record has succeeded in the other too. -/
def keeps (e l : Execution) : Bool :=
  e.steps.all fun s => s.status != .success || (l.successfulStep? s.node).isSome

/-- A later state of a record, unless successes got lost on the way to it. -/
def advancedTo (e l : Execution) : Execution := if e.keeps l then l else e

@[simp] theorem advancedTo_self (e : Execution) : e.advancedTo e = e := by
  unfold advancedTo; split <;> rfl

theorem successfulStep?_advancedTo_isNone {e l : Execution} {id : String}
    (h : ((e.advancedTo l).successfulStep? id).isNone = true) :
    (e.successfulStep? id).isNone = true := by
  unfold advancedTo at h
  split at h
  · next hk =>
    cases hs : e.successfulStep? id with
    | none => rfl
    | some s =>
      have hp := List.find?_some hs
      simp only [Bool.and_eq_true, beq_iff_eq] at hp
      have := List.all_eq_true.mp hk s (List.mem_of_find?_eq_some hs)
      simp [hp.1, hp.2, Option.isNone_iff_eq_none.mp h] at this
  · exact h

end Execution

/-- A span of microseconds in milliseconds: the nearest double of its seconds, times a thousand,
rounded again and cut off. -/
def millisecondsOf (microseconds : Int) : Int :=
  ((Binary64.ofRatio (decide (microseconds < 0)) microseconds.natAbs 1000000).mul
    (.ofRatio false 1000 1)).truncate

/-- The summary of a record. Clocks of different kinds have no difference. -/
def Execution.summary (e : Execution) : Except Failure Summary := do
  let duration ← match e.completedAt with
    | none => pure none
    | some finish => match finish.since? e.startedAt with
      | some span => pure (some (millisecondsOf span))
      | none => throw .clocksSubtracted
  return {
    id := e.id
    workflow := e.workflow
    status := e.status
    startedAt := e.startedAt
    completedAt := e.completedAt
    stepCount := e.steps.length
    duration := duration
    error := e.error }

end TriggerFlow
