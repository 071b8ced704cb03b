import TriggerFlow.Number.Shortest
import TriggerFlow.Time.Moment

/-!
Dynamic data: what configurations, contexts, outputs and rows are made of. Objects keep the order
in which their keys were first written. Moments occur in rows and messages, not in documents.
-/

namespace TriggerFlow

inductive Value where
  | null
  | bool (b : Bool)
  | int (n : Int)
  | float (x : Binary64)
  | str (s : String)
  | time (t : Moment)
  | arr (elems : List Value)
  | obj (fields : List (String × Value))
  deriving Repr

abbrev Fields := List (String × Value)

instance : Inhabited Value := ⟨.null⟩

namespace Fields

def get? (fs : Fields) (key : String) : Option Value := fs.lookup key

/-- The field set anew where its key stands, or added at the end. -/
def set (fs : Fields) (key : String) (v : Value) : Fields :=
  match fs with
  | [] => [(key, v)]
  | (k, w) :: rest => if k = key then (k, v) :: rest else (k, w) :: set rest key v

def overlay (fs added : Fields) : Fields :=
  added.foldl (fun acc f => acc.set f.1 f.2) fs

/-- Fields from pairs in which a key may come again: the last value counts, the first place. -/
def ofPairs (pairs : List (String × Value)) : Fields := overlay [] pairs

@[simp] theorem get?_nil (key : String) : get? [] key = none := rfl

theorem get?_cons (k key : String) (v : Value) (fs : Fields) :
    get? ((k, v) :: fs) key = if key = k then some v else get? fs key := by
  by_cases h : key = k
  · subst h; simp only [get?, List.lookup_cons, beq_self_eq_true, if_true]
  · have hb : (key == k) = false := by simpa using h
    simp only [get?, List.lookup_cons, hb, h, if_false]

end Fields

namespace Value

/-- Empty and zero values, which stand for an absent one where a default is at hand. -/
def isEmpty : Value → Bool
  | .null => true
  | .bool b => !b
  | .int n => n = 0
  | .float x => match x with
    | .finite _ r => r.val = 0
    | _ => false
  | .str s => s = ""
  | .arr xs => xs.isEmpty
  | .obj fs => fs.isEmpty
  | .time _ => false

def typeName : Value → String
  | .null => "NoneType"
  | .bool _ => "bool"
  | .int _ => "int"
  | .float _ => "float"
  | .str _ => "str"
  | .time _ => "datetime.datetime"
  | .arr _ => "list"
  | .obj _ => "dict"

/-- A missing value and null are both read as null. -/
def field (fs : Fields) (key : String) : Value := (fs.get? key).getD .null

/-- Text, or null where there is none. -/
def ofText? (s : Option String) : Value := (s.map Value.str).getD .null

end Value
end TriggerFlow
