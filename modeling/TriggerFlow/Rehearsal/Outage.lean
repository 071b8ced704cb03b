import TriggerFlow.Store.Call

/-!
Outages of a store: which calls of which operation fail, and how. Calls are counted for every
operation from one on.
-/

namespace TriggerFlow.Rehearsal

open Store

inductive Disturbance where
  | fails (f : Failure)
  | isEmpty
  deriving Repr

structure Outage where
  operation : String
  /-- The numbers of the calls that are hit; all of them if there are none. -/
  calls : Option (List Nat)
  disturbance : Disturbance
  deriving Repr

def Outage.hits (o : Outage) (operation : String) (number : Nat) : Bool :=
  o.operation == operation && o.calls.all (·.contains number)

def Disturbance.answer : Disturbance → (c : Store.Call) → Store.Reply c
  | .fails f, _ => .error f
  | .isEmpty, .getWorkflow _ _ => .ok none
  | .isEmpty, .incrementRunCount _ _ _ | .isEmpty, .saveExecution _ => .ok ()
  | .isEmpty, .markCancelled _ _ _ | .isEmpty, .getExecution _ _ => .ok none
  | .isEmpty, _ => .error .noAnswer

structure Outages where
  planned : List Outage
  made : List String
  deriving Repr

namespace Outages

def none : Outages := ⟨[], []⟩

/-- Count a call; the outage that hits it, if there is one. -/
def arrive (o : Outages) (operation : String) : Option Disturbance × Outages :=
  let made := operation :: o.made
  ((o.planned.find? (·.hits operation (made.count operation))).map (·.disturbance),
    { o with made })

end Outages
end TriggerFlow.Rehearsal
