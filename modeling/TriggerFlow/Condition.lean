import TriggerFlow.Path
import TriggerFlow.Json.Literal
import TriggerFlow.Text.Case

/-!
The predicates on a connection. A predicate names a path, an operator and a value; textual operators
compare without regard to case, numeric ones compare doubles and are false where a side is no
number. All predicates of a connection are evaluated, then joined by its logic.
-/

namespace TriggerFlow

inductive Operator where
  | equals
  | notEquals
  | contains
  | notContains
  | greaterThan
  | lessThan
  | startsWith
  | endsWith
  deriving DecidableEq, Repr

namespace Operator

def all : List Operator :=
  [equals, notEquals, contains, notContains, greaterThan, lessThan, startsWith, endsWith]

def name : Operator → String
  | equals => "equals"
  | notEquals => "not_equals"
  | contains => "contains"
  | notContains => "not_contains"
  | greaterThan => "greater_than"
  | lessThan => "less_than"
  | startsWith => "starts_with"
  | endsWith => "ends_with"

def ofName? (s : String) : Option Operator := all.find? (·.name == s)

end Operator

inductive Logic where
  | and
  | or
  deriving DecidableEq, Repr

namespace Logic

def name : Logic → String
  | and => "AND"
  | or => "OR"

def all : List Logic := [and, or]

def ofName? (s : String) : Option Logic := all.find? (·.name == s)

def join (logic : Logic) (results : List Bool) : Bool :=
  match logic with
  | and => results.all id
  | or => results.any id

end Logic

structure Condition where
  id : String
  field : String
  operator : Operator
  value : String
  deriving DecidableEq, Repr

/-- The number a value stands for, if any: texts in the wide grammar with blanks around them, and
booleans as one and zero. An integer past the largest double is a failure. -/
def Value.number : Value → Except Failure (Option Binary64)
  | .bool b => .ok (some (if b then .ofRatio false 1 1 else .zero))
  | .int n => (Binary64.ofInt? n).elim (.error .integerPastDoubles) fun x => .ok (some x)
  | .float x => .ok (if x = .nan then none else some x)
  | .str s => match Numeral.float? (Text.trim s) with
    | some .nan => .ok none
    | r => .ok r
  | _ => .ok none

namespace Condition

def numberOf (v : Option Value) : Except Failure (Option Binary64) := (v.getD .null).number

def foldedText (v : Option Value) : Except Failure String :=
  (v.getD .null).text.map Text.lower

def numeric (test : Binary64 → Binary64 → Bool) (actual : Option Value) (expected : Value) :
    Except Failure Bool := do
  let left ← numberOf actual
  let right ← expected.number
  match left, right with
  | some x, some y => return test x y
  | _, _ => return false

def textual (test : String → String → Bool) (actual : Option Value) (expected : Value) :
    Except Failure Bool := do
  return test (← foldedText actual) (← foldedText expected)

def compare (actual : Option Value) : Operator → Value → Except Failure Bool
  | .equals, v => textual (fun a b => a == b) actual v
  | .notEquals, v => textual (fun a b => a != b) actual v
  | .contains, v => textual Text.contains actual v
  | .notContains, v => textual (fun a b => !Text.contains a b) actual v
  | .startsWith, v => textual Text.startsWith actual v
  | .endsWith, v => textual Text.endsWith actual v
  | .greaterThan, v => numeric (fun a b => Binary64.lt b a) actual v
  | .lessThan, v => numeric Binary64.lt actual v

/-- An operator given as data; what names none holds of nothing. -/
def compareBy (operator : Value) (actual : Option Value) (expected : Value) : Except Failure Bool :=
  match operator with
  | .str s => match Operator.ofName? s with
    | some op => compare actual op expected
    | none => .ok false
  | _ => .ok false

def evaluate (c : Condition) (context : Value) : Except Failure Bool := do
  compare (← Path.lookup context c.field) c.operator (.str c.value)

def evaluateAll (conditions : List Condition) (context : Value) : Except Failure (List Bool) :=
  conditions.mapM fun c => c.evaluate context

/-- Whether a connection with these conditions is followed; without conditions it is. -/
def hold (conditions : List Condition) (logic : Logic) (context : Value) : Except Failure Bool :=
  if conditions.isEmpty then .ok true
  else (evaluateAll conditions context).map logic.join

/-- The same with the logic given as data, which is read only when there are conditions. -/
def holdBy (conditions : List Condition) (logic context : Value) : Except Failure Bool :=
  if conditions.isEmpty then .ok true
  else do
    let results ← evaluateAll conditions context
    match (match logic with | .str s => Logic.ofName? s | _ => none) with
    | some l => return l.join results
    | none => throw (.notAmong (← logic.literal) "ConditionLogic")

end Condition
end TriggerFlow
