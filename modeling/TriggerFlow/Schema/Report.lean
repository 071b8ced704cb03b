import TriggerFlow.Json.Literal
import TriggerFlow.Schema

/-!
What is wrong with a document, as text: how many faults there are, and for each of them its place,
what it says, and the value that it is about, in short.
-/

namespace TriggerFlow.Schema.Report

/-- The part of a document that a fault is about, as far as its place leads into the document. The
tag of a node is part of the place but leads nowhere. -/
def subject (v : Value) : List Segment → Value
  | [] => v
  | .key k :: rest => match v with
    | .obj fs =>
      if k = "trigger" || k = "action" then subject v rest
      else subject ((Fields.get? fs k).getD v) rest
    | _ => subject v rest
  | .index i :: rest => match v with
    | .arr xs => subject (xs[i.toNat]?.getD v) rest
    | _ => subject v rest

/-- As many characters from the front as fit into a number of bytes. -/
def fitting : Nat → List Char → List Char
  | _, [] => []
  | bytes, c :: cs => if bytes < c.utf8Size then [] else c :: fitting (bytes - c.utf8Size) cs

/-- Text of more than 50 bytes is cut down to its ends. -/
def shortened (s : String) : String :=
  if s.utf8ByteSize ≤ 50 then s
  else
    let cs := s.toList
    String.ofList (fitting 25 cs ++ ['.', '.', '.'] ++ (fitting 24 cs.reverse).reverse)

def kind : Value → String
  | .time _ => "datetime"
  | v => v.typeName

/-- A value in short; one that has no literal is only named by its type. -/
def shown (v : Value) : String :=
  match v.literal with
  | .ok s => shortened s
  | .error _ => shortened ("<unprintable " ++ kind v ++ " object>")

def segmentText : Segment → String
  | .key name => name
  | .index i => toString i

def handbook : String := "errors.pydantic.dev/2.14/v/"

def line (document : Value) (f : Fault) : String :=
  let v := subject document f.place
  (if f.place.isEmpty then "" else Text.join "." (f.place.map segmentText) ++ "\n") ++
    "  " ++ f.kind.message ++ " [type=" ++ f.kind.code ++ ", input_value=" ++ shown v ++
    ", input_type=" ++ kind v ++ "]\n    For further information visit https://" ++ handbook ++
    f.kind.code

def text (name : String) (document : Value) (faults : List Fault) : String :=
  Text.join "\n" ((toString faults.length ++ " validation error" ++
    (if faults.length = 1 then "" else "s") ++ " for " ++ name) :: faults.map (line document))

end TriggerFlow.Schema.Report
