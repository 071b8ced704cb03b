import TriggerFlow.Number.Numeral

/-!
Numeric addresses of hosts: four decimal octets, or eight groups of hexadecimal digits of which one
run of zeros may be left out.
-/

namespace TriggerFlow.IpAddress

def isOctet (cs : List Char) : Bool :=
  !cs.isEmpty && cs.all Char.isDigit && cs.length ≤ 3 &&
    (cs.length = 1 || cs.head? != some '0') && Numeral.ofDigits cs ≤ 255

def isV4 (cs : List Char) : Bool :=
  let octets := Text.splitAt '.' cs
  octets.length = 4 && octets.all isOctet

/-- Whether a text looks like four numbers with any one character after each of the first ones:
`separators` are still to come after at least one digit. -/
def startsNumber (separators : Nat) : List Char → Bool
  | [] => separators = 0
  | c :: cs =>
    (c.isDigit && startsNumber separators cs) ||
      match separators, cs with
      | n + 1, d :: ds => d.isDigit && startsNumber n ds
      | _, _ => false

def looksLikeV4 : List Char → Bool
  | c :: cs => c.isDigit && startsNumber 3 cs
  | [] => false

def isGroup (cs : List Char) : Bool :=
  !cs.isEmpty && cs.length ≤ 4 && cs.all fun c => (Numeral.hexValue? c).isSome

/-- The groups, with two for the octets that may stand in place of the last two. -/
def groups? (cs : List Char) : Option (List (List Char)) :=
  let parts := Text.splitAt ':' cs
  let last := parts.getLastD []
  if parts.length < 3 then none
  else if last.contains '.' then
    if isV4 last then some (parts.dropLast ++ [['0'], ['0']]) else none
  else some parts

/-- An end at the gap, where nothing but the gap itself stands. -/
def beside (parts : List (List Char)) : List (List Char) := if parts = [[]] then [] else parts

/-- All eight groups, or fewer of them around one gap. -/
def areGroups (parts : List (List Char)) : Bool :=
  let inner := parts.tail.dropLast
  let gap := inner.findIdx List.isEmpty
  if gap = inner.length then parts.length = 8 && parts.all isGroup
  else
    let groups := beside (parts.take (gap + 1)) ++ beside (parts.drop (gap + 2))
    groups.length < 8 && groups.all isGroup

def isV6 (cs : List Char) : Bool :=
  let address := cs.takeWhile (· != '%')
  let zoneFits : Bool := match cs.dropWhile (· != '%') with
    | [] => true
    | _ :: zone => !zone.isEmpty && !zone.contains '%'
  !cs.contains '/' && zoneFits && (groups? address).any areGroups

end TriggerFlow.IpAddress
