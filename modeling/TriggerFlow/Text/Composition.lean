import TriggerFlow.Text.CompositionTables

/-!
The composed normal form of texts: letters stand with their marks as one character where there is
one, and what marks are left stand in the order of their classes. Only small letters and letters
without case are known here; syllables of Korean are left whole.
-/

namespace TriggerFlow.Text.Composition

def markClass (n : Nat) : Nat :=
  ((Tables.markClasses.find? fun r => r.1 ≤ n && n ≤ r.2.1).map fun r => r.2.2).getD 0

def parts? (n : Nat) : Option (Nat × Nat) := Tables.composites.lookup n

def compose? (base mark : Nat) : Option Nat :=
  (Tables.composites.find? fun e => e.2.1 = base && e.2.2 = mark).map fun e => e.1

/-- A letter taken apart into its base and its marks; no letter has more than `depth` of them. -/
def takeApart (depth n : Nat) : List Nat :=
  match depth, parts? n with
  | depth + 1, some (base, mark) => takeApart depth base ++ [mark]
  | _, _ => [n]

/-- A character before marks in order, moved past the marks of smaller classes. -/
def settle (n : Nat) : List Nat → List Nat
  | [] => [n]
  | m :: ms =>
    if 0 < markClass m && markClass m < markClass n then m :: settle n ms else n :: m :: ms

def arrange : List Nat → List Nat
  | [] => []
  | n :: ns => settle n (arrange ns)

/-- A base, the marks after it that found no place in it, the last one first, and the rest. A mark
reaches the base if the one before it is of a smaller class. -/
def gather (base : Nat) (marks : List Nat) : List Nat → List Nat
  | [] => base :: marks.reverse
  | n :: ns =>
    let reaches : Bool := match marks with
      | [] => true
      | m :: _ => markClass m < markClass n
    match if reaches then compose? base n else none with
    | some whole => gather whole marks ns
    | none =>
      if markClass n = 0 then base :: marks.reverse ++ gather n [] ns
      else gather base (n :: marks) ns

def compose : List Nat → List Nat
  | [] => []
  | n :: ns => gather n [] ns

def normal (ns : List Nat) : List Nat := compose (arrange (ns.flatMap (takeApart 4)))

def isNormal (cs : List Char) : Bool := normal (cs.map Char.toNat) = cs.map Char.toNat

end TriggerFlow.Text.Composition
