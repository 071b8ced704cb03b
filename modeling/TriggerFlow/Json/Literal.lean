import TriggerFlow.Json.Writer

/-!
Values as running text. `Value.text` is what comparisons and placeholders see: documents as JSON,
integral numbers without a fraction, nothing for null. `Value.literal` shows a value the way
messages do, and `Value.setting` is how a configuration entry is read as text.
-/

namespace TriggerFlow.Value

/-- The text of a value; what is absent has none. -/
def text (v : Value) : Except Failure String :=
  match v with
  | .null => .ok ""
  | .bool b => .ok (if b then "true" else "false")
  | .int n => (integerText n).map String.ofList
  | .float x => match x.toInt? with
    | some n => (integerText n).map String.ofList
    | none => .ok x.text
  | .str s => .ok s
  | .time t => .ok t.plainText
  | .arr _ | .obj _ => Json.write .spaced v

mutual

def literalChars : Value → Except Failure (List Char)
  | .null => .ok "None".toList
  | .bool b => .ok (if b then "True".toList else "False".toList)
  | .int n => integerText n
  | .float x => .ok x.text.toList
  | .str s => .ok (Text.quotedChars s.toList)
  | .time t => .ok t.literal.toList
  | .arr xs => do return '[' :: ((← literalElems true xs) ++ [']'])
  | .obj fs => do return '\x7b' :: ((← literalFields true fs) ++ ['\x7d'])

def literalElems (first : Bool) : List Value → Except Failure (List Char)
  | [] => .ok []
  | x :: xs => do
    let head ← literalChars x
    let tail ← literalElems false xs
    return (if first then [] else [',', ' ']) ++ head ++ tail

def literalFields (first : Bool) : List (String × Value) → Except Failure (List Char)
  | [] => .ok []
  | (k, x) :: fs => do
    let head ← literalChars x
    let tail ← literalFields false fs
    return (if first then [] else [',', ' ']) ++ Text.quotedChars k.toList ++ [':', ' '] ++
      head ++ tail

end

def literal (v : Value) : Except Failure String := (literalChars v).map String.ofList

/-- Text and dates stand for themselves, anything else for its literal. -/
def setting : Value → Except Failure String
  | .str s => .ok s
  | .time t => .ok t.plainText
  | v => v.literal

end TriggerFlow.Value
