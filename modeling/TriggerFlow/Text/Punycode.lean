/-!
Punycode: a text as its ASCII characters, followed by numbers that say which other characters go
where. The numbers are written to base 36 with a bias that follows the last number, so that a text
of one script stays short.
-/

namespace TriggerFlow.Text.Punycode

def digitChar (d : Nat) : Char := Char.ofNat (if d < 26 then 97 + d else 22 + d)

def digitValue? (c : Char) : Option Nat :=
  if 'a' ≤ c ∧ c ≤ 'z' then some (c.toNat - 97)
  else if c.isDigit then some (c.toNat - 22) else none

/-- The first digit at a position that does not end a number. -/
def threshold (position bias : Nat) : Nat :=
  if position ≤ bias then 1 else if bias + 26 ≤ position then 26 else position - bias

theorem one_le_threshold (position bias : Nat) : 1 ≤ threshold position bias := by
  simp only [threshold]
  split
  · omega
  · split <;> omega

/-- A number brought down to 455 in steps, with 36 for each step. -/
def reduce (delta steps : Nat) : Nat × Nat :=
  if h : 455 < delta then reduce (delta / 35) (steps + 36) else (delta, steps)
termination_by delta
decreasing_by omega

/-- The bias for the number after `delta`, with which `count` characters are in place. -/
def nextBias (delta count : Nat) (isFirst : Bool) : Nat :=
  let scaled := if isFirst then delta / 700 else delta / 2
  let (rest, steps) := reduce (scaled + scaled / count) 0
  steps + 36 * rest / (rest + 38)

def digits (bias position n : Nat) : List Char :=
  if h : n < threshold position bias then [digitChar n]
  else
    let t := threshold position bias
    digitChar (t + (n - t) % (36 - t)) :: digits bias (position + 36) ((n - t) / (36 - t))
termination_by n
decreasing_by
  have := one_le_threshold position bias
  exact Nat.lt_of_le_of_lt (Nat.div_le_self _ _) (by omega)

structure Writer where
  delta : Nat
  bias : Nat
  count : Nat
  out : List Char

def isBasic (c : Char) : Bool := c.toNat < 0x80

/-- Past a smaller character the distance grows; at the one in turn it is written. -/
def Writer.pass (turn basics : Nat) (w : Writer) (c : Char) : Writer :=
  if c.toNat < turn then { w with delta := w.delta + 1 }
  else if c.toNat = turn then
    ⟨0, nextBias w.delta (w.count + 1) (w.count = basics), w.count + 1,
      w.out ++ digits w.bias 36 w.delta⟩
  else w

/-- The code points in turn, in ascending order from `next` on. -/
def Writer.turns (cs : List Char) (basics next : Nat) (w : Writer) : List Nat → List Char
  | [] => w.out
  | n :: ns =>
    let w := { w with delta := w.delta + (n - next) * (w.count + 1) }
    let w := cs.foldl (Writer.pass n basics) w
    Writer.turns cs basics (n + 1) { w with delta := w.delta + 1 } ns

def distinct : List Nat → List Nat
  | m :: n :: ns => if m = n then distinct (n :: ns) else m :: distinct (n :: ns)
  | ns => ns

def encode (cs : List Char) : List Char :=
  let basic := cs.filter isBasic
  let others := distinct (((cs.filter fun c => !isBasic c).map Char.toNat).mergeSort)
  basic ++ (if basic.isEmpty then [] else ['-']) ++
    Writer.turns cs basic.length 0x80 ⟨0, 72, basic.length, []⟩ others

/-- A number that is being read, and those read before it, the last one first. -/
structure Reader where
  bias : Nat
  count : Nat
  position : Nat
  weight : Nat
  value : Nat
  numbers : List Nat

def Reader.digit (r : Reader) (d : Nat) : Reader :=
  let value := r.value + d * r.weight
  let t := threshold r.position r.bias
  if d < t then
    ⟨nextBias value (r.count + 1) r.numbers.isEmpty, r.count + 1, 36, 1, 0, value :: r.numbers⟩
  else { r with position := r.position + 36, weight := r.weight * (36 - t), value }

/-- The numbers written in a text, all of them complete. -/
def numbers? (count : Nat) (cs : List Char) : Option (List Nat) := do
  let ds ← cs.mapM digitValue?
  let r := ds.foldl Reader.digit ⟨72, count, 36, 1, 0, []⟩
  if r.position = 36 then some r.numbers.reverse else none

/-- Characters put in one after another: each number counts the places passed over, once round
the text for every code point. -/
def place (out : List Char) (point position : Nat) : List Nat → Option (List Char)
  | [] => some out
  | n :: ns =>
    let places := out.length + 1
    let point := point + (position + n) / places
    let position := (position + n) % places
    if h : point.isValidChar then
      let out := out.take position ++ Char.ofNatAux point h :: out.drop position
      place out point (position + 1) ns
    else none

def decode? (cs : List Char) : Option (List Char) :=
  let extended := (cs.reverse.takeWhile (· != '-')).reverse
  let basic := cs.take (cs.length - extended.length - 1)
  (numbers? basic.length extended).bind (place basic 0x80 0)

end TriggerFlow.Text.Punycode
