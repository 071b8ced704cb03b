import TriggerFlow.Text.Quoted
import TriggerFlow.Time.Flaw

/-!
What can be wrong with a document that is read against a schema, and where.
-/

namespace TriggerFlow

/-- The way from a part of a document into one of its own parts. -/
inductive Segment where
  | key (name : String)
  | index (i : Int)
  deriving DecidableEq, Repr

inductive FaultKind where
  | missing
  | notObject (name : String)
  | notAttributes
  | notText
  | textTooShort
  | notUnicode
  | notListed (options : List String)
  | notLiteral (option : String)
  | notList
  | notMap
  | notFloat
  | floatText
  | notInteger
  | integerText
  | integerFraction
  | integerTooLong
  | notFinite
  | notBool
  | boolText
  | notMoment
  | momentText (flaw : Moment.Flaw)
  | momentRange (flaw : Moment.Flaw)
  | tagMissing
  | tagUnknown (tag : String)
  | belowMinimum (least : Int)
  | aboveMaximum (most : Int)
  | badJson
  | duplicateNode (id : String)
  deriving DecidableEq, Repr

def FaultKind.code : FaultKind → String
  | missing => "missing"
  | notObject _ => "model_type"
  | notAttributes => "model_attributes_type"
  | notText => "string_type"
  | textTooShort => "string_too_short"
  | notUnicode => "string_unicode"
  | notListed _ => "enum"
  | notLiteral _ => "literal_error"
  | notList => "list_type"
  | notMap => "dict_type"
  | notFloat => "float_type"
  | floatText => "float_parsing"
  | notInteger => "int_type"
  | integerText => "int_parsing"
  | integerFraction => "int_from_float"
  | integerTooLong => "int_parsing_size"
  | notFinite => "finite_number"
  | notBool => "bool_type"
  | boolText => "bool_parsing"
  | notMoment => "datetime_type"
  | momentText _ => "datetime_from_date_parsing"
  | momentRange _ => "datetime_parsing"
  | tagMissing => "union_tag_not_found"
  | tagUnknown _ => "union_tag_invalid"
  | belowMinimum _ => "greater_than_equal"
  | aboveMaximum _ => "less_than_equal"
  | badJson => "json_invalid"
  | duplicateNode _ => "value_error"

/-- The options quoted, with "or" before the last one. -/
def alternatives : List String → String
  | [] => ""
  | [s] => Text.quoted s
  | [s, t] => Text.quoted s ++ " or " ++ Text.quoted t
  | s :: rest => Text.quoted s ++ ", " ++ alternatives rest

def FaultKind.message : FaultKind → String
  | missing => "Field required"
  | notObject name => "Input should be a valid dictionary or instance of " ++ name
  | notAttributes => "Input should be a valid dictionary or object to extract fields from"
  | notText => "Input should be a valid string"
  | textTooShort => "String should have at least 1 character"
  | notUnicode => "Input should be a valid string, unable to parse raw data as a unicode string"
  | notListed options => "Input should be " ++ alternatives options
  | notLiteral option => "Input should be " ++ alternatives [option]
  | notList => "Input should be a valid list"
  | notMap => "Input should be a valid dictionary"
  | notFloat => "Input should be a valid number"
  | floatText => "Input should be a valid number, unable to parse string as a number"
  | notInteger => "Input should be a valid integer"
  | integerText => "Input should be a valid integer, unable to parse string as an integer"
  | integerFraction => "Input should be a valid integer, got a number with a fractional part"
  | integerTooLong => "Unable to parse input string as an integer, exceeded maximum size"
  | notFinite => "Input should be a finite number"
  | notBool => "Input should be a valid boolean"
  | boolText => "Input should be a valid boolean, unable to interpret input"
  | notMoment => "Input should be a valid datetime"
  | momentText flaw => "Input should be a valid datetime or date, " ++ flaw.message
  | momentRange flaw => "Input should be a valid datetime, " ++ flaw.message
  | tagMissing => "Unable to extract tag using discriminator 'type'"
  | tagUnknown tag => "Input tag '" ++ tag ++ "' found using 'type' does not match any of the " ++
      "expected tags: 'trigger', 'action'"
  | belowMinimum least => "Input should be greater than or equal to " ++ toString least
  | aboveMaximum most => "Input should be less than or equal to " ++ toString most
  | badJson => "JSON decode error"
  | duplicateNode id => "Value error, Duplicate node id: " ++ id

def FaultKind.explanation? (k : FaultKind) : Option String :=
  match k with
  | duplicateNode _ => some k.message
  | _ => none

structure Fault where
  place : List Segment
  kind : FaultKind
  deriving DecidableEq, Repr

/-- The fault as seen from one part further out. -/
def Fault.under (segment : Segment) (f : Fault) : Fault := ⟨segment :: f.place, f.kind⟩

def Fault.here (kind : FaultKind) : Fault := ⟨[], kind⟩

end TriggerFlow
