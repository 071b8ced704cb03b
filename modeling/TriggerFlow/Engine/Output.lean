import TriggerFlow.Json.Key
import TriggerFlow.Schema

/-!
Data that is handed on as fields: what triggers a run, and what an action gives. It is an object, a
list of pairs, or something empty.
-/

namespace TriggerFlow.Engine.Output

/-- The field that a pair means, which is the `i`-th of its list. -/
def pair (i : Nat) : Value → Except Failure (String × Value)
  | .arr [k, v] => (Key.ofValue k).map (·, v)
  | .arr xs => .error (.output (.wrongLength i xs.length))
  | .str s => match s.toList with
    | [a, b] => .ok (String.singleton a, .str (String.singleton b))
    | cs => .error (.output (.wrongLength i cs.length))
  | .obj [(a, _), (b, _)] => .ok (a, .str b)
  | .obj fs => .error (.output (.wrongLength i fs.length))
  | _ => .error (.output (.notPair i))

def pairs (xs : List Value) : Except Failure Fields :=
  (xs.zipIdx.mapM fun (x, i) => pair i x).map (Key.overlay [])

/-- The fields of an object or of a list of pairs, none for an empty value. -/
def fields (v : Value) : Except Failure Fields :=
  if v.isEmpty then .ok []
  else match v with
    | .obj fs => .ok fs
    | .arr xs => pairs xs
    | .str s => pairs (s.toList.map fun c => .str (String.singleton c))
    | v => .error (.isNot v.typeName "iterable")

/-- What a key that is no text is called in the place of a fault. -/
def segment (key : String) : Segment :=
  match Key.form key with
  | "true" => .index 1
  | "false" => .index 0
  | form => match Numeral.integer form with
    | .ok n => if Schema.isWord64 n then .index n else .key form
    | .error _ => .key (Key.documentForm key)

def keyFaults (name : String) (fs : Fields) : List Fault :=
  (fs.filter fun f => Key.isMarked f.1).map fun f =>
    ⟨[.key name, segment f.1, .key "[key]"], .notText⟩

end TriggerFlow.Engine.Output
