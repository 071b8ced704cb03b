import TriggerFlow.Proofs.Run.Visit

/-!
What happens in a walk, one thing after the other: besides the exchange with the surroundings, what
nodes are entered on what input, what connections are evaluated and what nodes are left.
-/

namespace TriggerFlow.Engine

/-- A look at the conditions of a connection in a context. -/
structure Evaluation where
  connection : Connection
  context : Fields

def Evaluation.result (v : Evaluation) : Except Failure Bool :=
  Condition.hold v.connection.conditions v.connection.logic (.obj v.context)

inductive Event where
  | exchange (x : Exchange)
  | entered (n : Node) (context : Fields)
  | evaluated (v : Evaluation)
  | left (node : String)

namespace Event

@[simp] def exchange? : Event → Option Exchange
  | exchange x => some x
  | _ => none

@[simp] def entry? : Event → Option (Node × Fields)
  | entered n context => some (n, context)
  | _ => none

@[simp] def evaluation? : Event → Option Evaluation
  | evaluated v => some v
  | _ => none

@[simp] def leaving? : Event → Option String
  | left node => some node
  | _ => none

end Event

def exchanges (u : List Event) : List Exchange := u.filterMap Event.exchange?

/-- The nodes that were entered, with their inputs. -/
def entries (u : List Event) : List (Node × Fields) := u.filterMap Event.entry?

def enteredIds (u : List Event) : List String := (entries u).map (·.1.id)

def evaluations (u : List Event) : List Evaluation := u.filterMap Event.evaluation?

/-- The nodes that were left, in that order. -/
def leavings (u : List Event) : List String := u.filterMap Event.leaving?

def plain (t : List Exchange) : List Event := t.map .exchange

section
variable (x : Event) (u v : List Event) (t : List Exchange)

@[simp] theorem exchanges_nil : exchanges [] = [] := rfl

@[simp] theorem exchanges_cons : exchanges (x :: u) = x.exchange?.toList ++ exchanges u := by
  cases x <;> rfl

@[simp] theorem exchanges_append : exchanges (u ++ v) = exchanges u ++ exchanges v :=
  List.filterMap_append

@[simp] theorem exchanges_plain : exchanges (plain t) = t := by
  simp [exchanges, plain, List.filterMap_map, Function.comp_def]

theorem exchanges_begun (n : Node) (context : Fields) :
    exchanges (.entered n context :: plain t) = t := by
  simp

theorem exchanges_looked (y : Exchange) (z : Evaluation) :
    exchanges (.exchange y :: .evaluated z :: plain t) = y :: t := by
  simp

theorem exchanges_stepped (y : Exchange) (z : Evaluation) (n : Node) (context : Fields) :
    exchanges (.exchange y :: .evaluated z :: .entered n context :: plain t) = y :: t := by
  simp

@[simp] theorem entries_nil : entries [] = [] := rfl

@[simp] theorem entries_cons : entries (x :: u) = x.entry?.toList ++ entries u := by
  cases x <;> rfl

@[simp] theorem entries_append : entries (u ++ v) = entries u ++ entries v :=
  List.filterMap_append

@[simp] theorem entries_plain : entries (plain t) = [] := by
  simp [entries, plain, List.filterMap_map, Function.comp_def]

@[simp] theorem enteredIds_nil : enteredIds [] = [] := rfl

@[simp] theorem enteredIds_cons :
    enteredIds (x :: u) = x.entry?.toList.map (·.1.id) ++ enteredIds u := by
  cases x <;> rfl

@[simp] theorem enteredIds_append : enteredIds (u ++ v) = enteredIds u ++ enteredIds v := by
  simp only [enteredIds, entries_append, List.map_append]

@[simp] theorem enteredIds_plain : enteredIds (plain t) = [] := by
  simp only [enteredIds, entries_plain, List.map_nil]

@[simp] theorem evaluations_nil : evaluations [] = [] := rfl

@[simp] theorem evaluations_cons :
    evaluations (x :: u) = x.evaluation?.toList ++ evaluations u := by
  cases x <;> rfl

@[simp] theorem evaluations_append : evaluations (u ++ v) = evaluations u ++ evaluations v :=
  List.filterMap_append

@[simp] theorem evaluations_plain : evaluations (plain t) = [] := by
  simp [evaluations, plain, List.filterMap_map, Function.comp_def]

@[simp] theorem leavings_nil : leavings [] = [] := rfl

@[simp] theorem leavings_cons : leavings (x :: u) = x.leaving?.toList ++ leavings u := by
  cases x <;> rfl

@[simp] theorem leavings_append : leavings (u ++ v) = leavings u ++ leavings v :=
  List.filterMap_append

@[simp] theorem leavings_plain : leavings (plain t) = [] := by
  simp [leavings, plain, List.filterMap_map, Function.comp_def]

end

end TriggerFlow.Engine
