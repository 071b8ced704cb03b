import TriggerFlow.Number.Numeral
import TriggerFlow.Text.Quoted

/-!
UUIDs from text. Many spellings name the same one: the prefixes of a URN, braces and hyphens are
dropped, and what is left has to be a number of 128 bits in thirty-two characters of the wide
hexadecimal grammar. The canonical spelling has lower-case digits in five groups.
-/

namespace TriggerFlow.Uuid

def isBrace (c : Char) : Bool := c = '\x7b' || c = '\x7d'

/-- The characters that are to be read as a number. -/
def core (s : String) : List Char :=
  let bare := Text.without (Text.without s "urn:") "uuid:"
  (Text.trimBy isBrace bare.toList).filter (· != '-')

def number? (s : String) : Option Nat :=
  let cs := core s
  if cs.length = 32 then
    (Numeral.hexadecimal? cs).bind fun n =>
      if 0 ≤ n ∧ n < Nat.pow 2 128 then some n.toNat else none
  else none

def spelling (n : Nat) : String :=
  let ds := Text.hexDigits 32 n
  let group (start length : Nat) : List Char := (ds.drop start).take length
  String.ofList (group 0 8 ++ '-' :: group 8 4 ++ '-' :: group 12 4 ++ '-' :: group 16 4 ++
    '-' :: group 20 12)

/-- The canonical spelling of the UUID that a text spells, if it spells one. -/
def key? (s : String) : Option String := (number? s).map spelling

end TriggerFlow.Uuid
