import TriggerFlow.Failure
import TriggerFlow.Json.Value
import TriggerFlow.Time.Timestamp

/-!
Reading typed data out of documents. A schema turns a value into a typed one or reports every fault
it finds, each with its place; the faults of an object stand in the order of its fields. Numbers,
booleans and dates are read leniently from one another and from text, text only from text.
-/

namespace TriggerFlow

inductive Reading (α : Type) where
  | value (a : α)
  | faults (fs : List Fault)

namespace Reading

def fail {α : Type} (kind : FaultKind) : Reading α := .faults [.here kind]

def map {α β : Type} (f : α → β) : Reading α → Reading β
  | value a => value (f a)
  | faults fs => faults fs

def ap {α β : Type} : Reading (α → β) → Reading α → Reading β
  | value f, value a => value (f a)
  | value _, faults gs => faults gs
  | faults fs, value _ => faults fs
  | faults fs, faults gs => faults (fs ++ gs)

instance : Applicative Reading where
  pure := .value
  map := Reading.map
  seq f a := ap f (a ())

def bind {α β : Type} : Reading α → (α → Reading β) → Reading β
  | value a, f => f a
  | faults fs, _ => faults fs

def under {α : Type} (segment : Segment) : Reading α → Reading α
  | value a => value a
  | faults fs => faults (fs.map (Fault.under segment))

def toExcept {α : Type} : Reading α → Except Failure α
  | value a => .ok a
  | faults fs => .error (.invalid fs)

end Reading

/-- Where a document comes from; the two name an object that is none differently. -/
inductive Source where
  | data
  | request
  deriving DecidableEq, Repr

namespace Schema

def text : Value → Reading String
  | .str s => .value s
  | _ => .fail .notText

/-- Text that is looked into has to be proper Unicode; other text is passed on as it is. -/
def legible {α : Type} (schema : String → Reading α) (s : String) : Reading α :=
  if Text.Surrogate.occursIn s then .fail .notUnicode else schema s

def nonemptyText (v : Value) : Reading String :=
  (text v).bind (legible fun s => if s = "" then .fail .textTooShort else .value s)

def optional {α : Type} (schema : Value → Reading α) : Value → Reading (Option α)
  | .null => .value none
  | v => (schema v).map some

def oneOf {α : Type} (all : List α) (name : α → String) : Value → Reading α
  | .str s => legible (fun s => match all.find? (name · == s) with
    | some a => .value a
    | none => .fail (.notListed (all.map name))) s
  | _ => .fail (.notListed (all.map name))

def literal (s : String) : Value → Reading Unit
  | .str t => legible (fun t => if t = s then .value () else .fail (.notLiteral s)) t
  | _ => .fail (.notLiteral s)

def elems {α : Type} (schema : Value → Reading α) (index : Nat) : List Value → Reading (List α)
  | [] => .value []
  | x :: xs => List.cons <$> (schema x).under (.index index) <*> elems schema (index + 1) xs

def list {α : Type} (schema : Value → Reading α) : Value → Reading (List α)
  | .arr xs => elems schema 0 xs
  | _ => .fail .notList

def map : Value → Reading Fields
  | .obj fs => .value fs
  | _ => .fail .notMap

/-- Text as a double: blanks at its ends, or else lone underscores inside it. -/
def floatOfText? (s : String) : Option Binary64 :=
  match Numeral.plainFloat? (Text.trimBy Text.isPatternBlank s.toList) with
  | some x => some x
  | none => (Numeral.separated? s.toList).bind Numeral.plainFloat?

def float : Value → Reading Binary64
  | .float x => .value x
  | .bool b => .value (if b then .ofRatio false 1 1 else .zero)
  | .int n => match Binary64.ofInt? n with
    | some x => .value x
    | none => .fail .notFloat
  | .str s => legible (fun s => match floatOfText? s with
    | some x => .value x
    | none => .fail .floatText) s
  | _ => .fail .notFloat

def isWord64 (n : Int) : Bool := -9223372036854775808 ≤ n && n < 9223372036854775808

/-- The integer of an integral double, as far as 64 bits hold it; the lowest one is left out. -/
def integerOfFloat (x : Binary64) : Reading Int :=
  if !x.isFinite then .fail .notFinite
  else match x.toInt? with
    | some n =>
      if isWord64 n && n != -9223372036854775808 then .value n else .fail .integerTooLong
    | none => .fail .integerFraction

def integer : Value → Reading Int
  | .int n => .value n
  | .bool b => .value (if b then 1 else 0)
  | .float x => integerOfFloat x
  | .str s => legible (fun s => match Numeral.plainInteger s with
    | .ok n => .value n
    | .error (.tooLong _) => .fail .integerTooLong
    | .error .malformed => .fail .integerText) s
  | _ => .fail .notInteger

def trueWords : List String := ["1", "on", "t", "true", "y", "yes"]

def falseWords : List String := ["0", "off", "f", "false", "n", "no"]

def boolOfInteger (n : Int) : Reading Bool :=
  if n = 0 then .value false else if n = 1 then .value true else .fail .boolText

def boolean : Value → Reading Bool
  | .bool b => .value b
  | .int n => if isWord64 n then boolOfInteger n else .fail .notBool
  | .float x => match integerOfFloat x with
    | .value n => boolOfInteger n
    | .faults _ => .fail .notBool
  | .str s => legible (fun s =>
    let word := String.ofList (s.toList.map Char.toLower)
    if trueWords.contains word then .value true
    else if falseWords.contains word then .value false
    else .fail .boolText) s
  | _ => .fail .notBool

/-- A moment that was found and has a place in the calendar, or the fault of finding none. -/
def momentOr (fault : FaultKind) : Option Moment → Reading Moment
  | some t => if t.inCalendar then .value t else .fail (.momentRange .yearZero)
  | none => .fail fault

def momentOfFloat (x : Binary64) : Reading Moment :=
  momentOr (.momentRange (Moment.flawOfFloat x)) (Moment.ofFloat? x)

/-- Counts past 64 bits are read as doubles. -/
def moment : Value → Reading Moment
  | .time t => .value t
  | .int n =>
    if isWord64 n then momentOr (.momentRange (Moment.flawOfCount n)) (Moment.ofTimestamp? n 0)
    else match Binary64.ofInt? n with
      | some x => momentOfFloat x
      | none => .fail .notMoment
  | .float x => momentOfFloat x
  | .str s => legible (fun s => momentOr (.momentText (Moment.flawOfText s)) (Moment.ofText? s)) s
  | _ => .fail .notMoment

def object {α : Type} (source : Source) (name : String) (schema : Fields → Reading α) :
    Value → Reading α
  | .obj fs => schema fs
  | _ => .fail (match source with | .data => .notObject name | .request => .notAttributes)

def required {α : Type} (key : String) (schema : Value → Reading α) (fs : Fields) : Reading α :=
  match fs.get? key with
  | some v => (schema v).under (.key key)
  | none => .faults [⟨[.key key], .missing⟩]

def withDefault {α : Type} (key : String) (schema : Value → Reading α) (default : α)
    (fs : Fields) : Reading α :=
  match fs.get? key with
  | some v => (schema v).under (.key key)
  | none => .value default

def nullable {α : Type} (key : String) (schema : Value → Reading α) (fs : Fields) :
    Reading (Option α) :=
  withDefault key (optional schema) none fs

def given {α : Type} (key : String) (schema : Value → Reading α) (fs : Fields) :
    Reading (Option α) :=
  withDefault key (fun v => (schema v).map some) none fs

end Schema
end TriggerFlow
