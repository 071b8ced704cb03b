import TriggerFlow.Text.CharClass
import TriggerFlow.Text.Surrogate

/-!
Quoted text as messages show it: single quotes unless the text holds single and no double ones,
escapes for the quote, the backslash and whatever cannot be shown.
-/

namespace TriggerFlow.Text

def hexDigits (width n : Nat) : List Char :=
  let ds := Nat.toDigits 16 n
  List.replicate (width - ds.length) '0' ++ ds

/-- The escape for the number of a character. -/
def escaped (c : Char) : List Char :=
  let n := Surrogate.point c
  if n < 0x100 then '\\' :: 'x' :: hexDigits 2 n
  else if n < 0x10000 then '\\' :: 'u' :: hexDigits 4 n
  else '\\' :: 'U' :: hexDigits 8 n

def quotedChar (quote c : Char) : List Char :=
  if c = quote || c = '\\' then ['\\', c]
  else if c = '\n' then ['\\', 'n']
  else if c = '\r' then ['\\', 'r']
  else if c = '\t' then ['\\', 't']
  else if isPrintable c then [c]
  else escaped c

def quoteFor (cs : List Char) : Char :=
  if cs.contains '\'' && !cs.contains '"' then '"' else '\''

def quotedChars (cs : List Char) : List Char :=
  let quote := quoteFor cs
  quote :: (cs.flatMap (quotedChar quote) ++ [quote])

def quoted (s : String) : String := String.ofList (quotedChars s.toList)

end TriggerFlow.Text
