import TriggerFlow.Number.Numeral
import TriggerFlow.Text.Quoted

/-!
Percent encoding: characters outside a safe set as the hexadecimal bytes of their UTF-8 form, and
back again.
-/

namespace TriggerFlow.Percent

def utf8 (c : Char) : List Nat :=
  let n := c.toNat
  if n < 0x80 then [n]
  else if n < 0x800 then [0xc0 + n / 0x40, 0x80 + n % 0x40]
  else if n < 0x10000 then [0xe0 + n / 0x1000, 0x80 + n / 0x40 % 0x40, 0x80 + n % 0x40]
  else [0xf0 + n / 0x40000, 0x80 + n / 0x1000 % 0x40, 0x80 + n / 0x40 % 0x40, 0x80 + n % 0x40]

def upperHex (n : Nat) : List Char := (Text.hexDigits 2 n).map Char.toUpper

def encodeByte (n : Nat) : List Char := '%' :: upperHex n

def isHex (c : Char) : Bool := (Numeral.hexValue? c).isSome

/-- The text with unsafe characters encoded; what is encoded already stays. -/
def encode (safe : Char → Bool) : List Char → List Char
  | '%' :: a :: b :: cs =>
    if isHex a && isHex b then '%' :: a :: b :: encode safe cs
    else (if safe '%' then ['%'] else encodeByte 37) ++ encode safe (a :: b :: cs)
  | c :: cs => (if safe c then [c] else (utf8 c).flatMap encodeByte) ++ encode safe cs
  | [] => []

def bytes : List Char → List Nat
  | '%' :: a :: b :: cs =>
    match Numeral.hexValue? a, Numeral.hexValue? b with
    | some x, some y => (16 * x + y) :: bytes cs
    | _, _ => 37 :: bytes (a :: b :: cs)
  | c :: cs => utf8 c ++ bytes cs
  | [] => []

/-- The bounds of the byte after a first byte, and how many bytes follow it in all. -/
def lead? (b : Nat) : Option (Nat × Nat × Nat) :=
  if 0xc2 ≤ b ∧ b < 0xe0 then some (0x80, 0xbf, 1)
  else if b = 0xe0 then some (0xa0, 0xbf, 2)
  else if b = 0xed then some (0x80, 0x9f, 2)
  else if 0xe1 ≤ b ∧ b < 0xf0 then some (0x80, 0xbf, 2)
  else if b = 0xf0 then some (0x90, 0xbf, 3)
  else if 0xf1 ≤ b ∧ b < 0xf4 then some (0x80, 0xbf, 3)
  else if b = 0xf4 then some (0x80, 0x8f, 3)
  else none

/-- A character whose first bytes have been read: the value so far, how many bytes are still to
come, and the bounds of the next one. -/
structure Partial where
  value : Nat
  missing : Nat
  low : Nat
  high : Nat

def begin (b : Nat) : List Char × Option Partial :=
  if b < 0x80 then ([Char.ofNat b], none)
  else match lead? b with
    | some (low, high, n) => ([], some ⟨b % Nat.pow 2 (6 - n), n, low, high⟩)
    | none => (['\ufffd'], none)

/-- What one more byte brings. A byte that does not fit ends the character before it, which becomes
a replacement character, and is read anew. -/
def next (b : Nat) : Option Partial → List Char × Option Partial
  | none => begin b
  | some p =>
    if p.low ≤ b ∧ b ≤ p.high then
      let value := p.value * 0x40 + b % 0x40
      if p.missing = 1 then ([Char.ofNat value], none)
      else ([], some ⟨value, p.missing - 1, 0x80, 0xbf⟩)
    else ('\ufffd' :: (begin b).1, (begin b).2)

def chars (pending : Option Partial) : List Nat → List Char
  | [] => if pending.isSome then ['\ufffd'] else []
  | b :: bs => (next b pending).1 ++ chars (next b pending).2 bs

def decode (cs : List Char) : List Char := chars none (bytes cs)

end TriggerFlow.Percent
