import TriggerFlow.Failure
import TriggerFlow.Json.Value

/-!
Dotted paths into dynamic data. A segment is a key of an object or the index of an element of a
list, in the digits of any script; `Path.walk` follows one segment after the other.
-/

namespace TriggerFlow.Path

/-- The index that a segment of digits names. Digits without a decimal value name none, and that is
a failure, as is a number too long to read. -/
def index (segment : List Char) : Except Failure Nat :=
  match Numeral.integer (String.ofList segment) with
  | .ok n => .ok n.toNat
  | .error .malformed => .error (.malformedInteger (String.ofList segment))
  | .error (.tooLong n) => .error (.integerTooLongToRead n)

def isIndex (segment : List Char) : Bool := !segment.isEmpty && segment.all Text.isDigit

def step (v : Value) (segment : List Char) : Except Failure (Option Value) :=
  match v with
  | .obj fs => .ok (Fields.get? fs (String.ofList segment))
  | .arr xs => if isIndex segment then (index segment).map (xs[·]?) else .ok none
  | _ => .ok none

def walk (v : Value) : List (List Char) → Except Failure (Option Value)
  | [] => .ok (some v)
  | segment :: rest => do
    match ← step v segment with
    | some w => walk w rest
    | none => return none

def segments (path : String) : List (List Char) := Text.splitAt '.' path.toList

def lookup (context : Value) (path : String) : Except Failure (Option Value) :=
  walk context (segments path)

theorem walk_append (v : Value) (xs ys : List (List Char)) :
    walk v (xs ++ ys) = (walk v xs).bind fun
      | some w => walk w ys
      | none => .ok none := by
  induction xs generalizing v with
  | nil => rfl
  | cons x xs ih =>
      simp only [List.cons_append, walk]
      cases h : step v x with
      | error e => rfl
      | ok r =>
          cases r with
          | none => rfl
          | some w => exact ih w

end TriggerFlow.Path
