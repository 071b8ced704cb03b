import TriggerFlow.Json.Value
import TriggerFlow.Text.Surrogate

/-!
Data as documents can hold it. Documents know neither moments nor infinities: a moment becomes its
text, a number that is not finite null, and everything else stays. Sent as bytes, a document must
not hold halves of surrogate pairs either.
-/

namespace TriggerFlow

mutual

def Value.plain : Value → Value
  | .time t => .str t.documentText
  | .float x => if x.isFinite then .float x else .null
  | .arr xs => .arr (Value.plainElems xs)
  | .obj fs => .obj (Fields.plain fs)
  | v => v

def Value.plainElems : List Value → List Value
  | [] => []
  | x :: xs => x.plain :: Value.plainElems xs

def Fields.plain : List (String × Value) → List (String × Value)
  | [] => []
  | (k, x) :: fs => (k, x.plain) :: Fields.plain fs

end

mutual

/-- Whether all text in a value has a form in bytes. -/
def Value.isUnicode : Value → Bool
  | .str s => !Text.Surrogate.occursIn s
  | .arr xs => Value.areUnicode xs
  | .obj fs => Fields.areUnicode fs
  | _ => true

def Value.areUnicode : List Value → Bool
  | [] => true
  | x :: xs => x.isUnicode && Value.areUnicode xs

def Fields.areUnicode : List (String × Value) → Bool
  | [] => true
  | (k, x) :: fs => !Text.Surrogate.occursIn k && x.isUnicode && Fields.areUnicode fs

end

end TriggerFlow
