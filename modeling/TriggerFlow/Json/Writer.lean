import TriggerFlow.Json.Value
import TriggerFlow.Failure

/-!
Values as JSON text. Integers are written up to the digit limit; doubles in their shortest form,
with the names `NaN`, `Infinity` and `-Infinity` where a style allows them; moments as text.
-/

namespace TriggerFlow

/-- The decimal text of an integer, within the digit limit. -/
def integerText (n : Int) : Except Failure (List Char) :=
  let ds := Nat.toDigits 10 n.natAbs
  if Numeral.maxDigits < ds.length then .error .integerTooLongToWrite
  else .ok (if n < 0 then '-' :: ds else ds)

namespace Json

structure Style where
  itemSeparator : List Char
  keySeparator : List Char
  asciiOnly : Bool
  allowsNonFinite : Bool

/-- With blanks after separators and everything past ASCII escaped. -/
def Style.spaced : Style := ⟨[',', ' '], [':', ' '], true, true⟩

/-- Without blanks, characters as they are. -/
def Style.compact : Style := ⟨[','], [':'], false, true⟩

/-- Compact, and finite numbers only. -/
def Style.strict : Style := { Style.compact with allowsNonFinite := false }

def unicodeEscape (n : Nat) : List Char := '\\' :: 'u' :: Text.hexDigits 4 n

/-- One escape, or the two of a surrogate pair. -/
def escapePoint (n : Nat) : List Char :=
  if n < 0x10000 then unicodeEscape n
  else unicodeEscape (0xd800 + (n - 0x10000) / 0x400) ++
    unicodeEscape (0xdc00 + (n - 0x10000) % 0x400)

def escapeChar (asciiOnly : Bool) (c : Char) : List Char :=
  if c = '"' then ['\\', '"']
  else if c = '\\' then ['\\', '\\']
  else if c = '\n' then ['\\', 'n']
  else if c = '\r' then ['\\', 'r']
  else if c = '\t' then ['\\', 't']
  else if c.toNat = 8 then ['\\', 'b']
  else if c.toNat = 12 then ['\\', 'f']
  else if c.toNat < 0x20 || (asciiOnly && 0x7e < c.toNat) then
    escapePoint (Text.Surrogate.point c)
  else [c]

def writeString (asciiOnly : Bool) (s : String) : List Char :=
  '"' :: (s.toList.flatMap (escapeChar asciiOnly) ++ ['"'])

def writeFloat (style : Style) (x : Binary64) : Except Failure (List Char) :=
  match x with
  | .finite _ _ => .ok x.text.toList
  | _ =>
    if style.allowsNonFinite then
      .ok (match x with
        | .infinite false => "Infinity".toList
        | .infinite true => "-Infinity".toList
        | _ => "NaN".toList)
    else .error .notFiniteJson

mutual

def writeChars (style : Style) : Value → Except Failure (List Char)
  | .null => .ok "null".toList
  | .bool b => .ok (if b then "true".toList else "false".toList)
  | .int n => integerText n
  | .float x => writeFloat style x
  | .str s => .ok (writeString style.asciiOnly s)
  | .time t => .ok (writeString style.asciiOnly t.plainText)
  | .arr xs => do return '[' :: ((← writeElems style true xs) ++ [']'])
  | .obj fs => do return '\x7b' :: ((← writeFields style true fs) ++ ['\x7d'])

/-- The elements, each but the first of the whole list after a separator. -/
def writeElems (style : Style) (first : Bool) : List Value → Except Failure (List Char)
  | [] => .ok []
  | x :: xs => do
    let head ← writeChars style x
    let tail ← writeElems style false xs
    return (if first then [] else style.itemSeparator) ++ head ++ tail

def writeFields (style : Style) (first : Bool) :
    List (String × Value) → Except Failure (List Char)
  | [] => .ok []
  | (k, x) :: fs => do
    let head ← writeChars style x
    let tail ← writeFields style false fs
    return (if first then [] else style.itemSeparator) ++ writeString style.asciiOnly k ++
      style.keySeparator ++ head ++ tail

end

def write (style : Style) (v : Value) : Except Failure String :=
  (writeChars style v).map String.ofList

end Json
end TriggerFlow
