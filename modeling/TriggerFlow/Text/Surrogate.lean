/-!
Halves of surrogate pairs. Text cannot hold them, but an escape in a document can name one alone;
it is kept as the unassigned character that stands for it, and shows again wherever text is written
with escapes. Text with such a stand-in has no form in bytes.
-/

namespace TriggerFlow.Text.Surrogate

/-- The first of the 2048 characters that stand for the halves. -/
def base : Nat := 0xdd800

def isHalf (n : Nat) : Bool := 0xd800 ≤ n && n ≤ 0xdfff

/-- The character of a code point, or what stands for it. -/
def charOf (n : Nat) : Char := Char.ofNat (if isHalf n then base + (n - 0xd800) else n)

def isStandIn (c : Char) : Bool := base ≤ c.toNat && c.toNat < base + 0x800

def point (c : Char) : Nat := if isStandIn c then 0xd800 + (c.toNat - base) else c.toNat

def occursIn (s : String) : Bool := s.toList.any isStandIn

end TriggerFlow.Text.Surrogate
