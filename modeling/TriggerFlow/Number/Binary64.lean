/-!
Double-precision numbers as exact values.

A finite number is a sign and a rank: the position of its magnitude among all magnitudes of the
format in ascending order, zero first. Ranks below `2^52` are subnormal; every further block of
`2^52` ranks doubles the spacing. Order is order of ranks, and no arithmetic below rounds except
`ofRatio`, which goes to the nearest magnitude and, from halfway, to the even rank.
-/

namespace TriggerFlow

/-- The ranks of one spacing. -/
def Binary64.block : Nat := Nat.pow 2 52

/-- How many times the smallest positive number goes into one. -/
def Binary64.unitsPerOne : Nat := Nat.pow 2 1074

/-- The number of finite magnitudes. -/
def Binary64.ranks : Nat := 2047 * block

inductive Binary64 where
  | nan
  | infinite (negative : Bool)
  | finite (negative : Bool) (rank : Fin Binary64.ranks)
  deriving DecidableEq, Repr

namespace Binary64

/-- The magnitude of a rank, counted in the smallest positive number `2^-1074`. -/
def units (rank : Nat) : Nat :=
  if rank / block = 0 then rank
  else (block + rank % block) * Nat.pow 2 (rank / block - 1)

def zero : Binary64 := .finite false ⟨0, by decide⟩

instance : Inhabited Binary64 := ⟨zero⟩

/-- The quotient rounded to the nearest natural number, a half going to the even one. -/
def roundDiv (num den : Nat) : Nat :=
  let q := num / den
  let r := num % den
  if 2 * r < den then q else if den < 2 * r then q + 1 else q + q % 2

/-- The rank nearest to `num / den`; it may lie past the finite ones. -/
def nearestRank (num den : Nat) : Nat :=
  let scaled := num * unitsPerOne
  let shift := Nat.log2 (scaled / den) - 52
  shift * block + roundDiv scaled (den * Nat.pow 2 shift)

def ofRank (negative : Bool) (rank : Nat) : Binary64 :=
  if h : rank < ranks then .finite negative ⟨rank, h⟩ else .infinite negative

/-- The number nearest to `± num / den`, an infinity when that lies past the finite ones. -/
def ofRatio (negative : Bool) (num den : Nat) : Binary64 :=
  ofRank negative (nearestRank num den)

/-- The number nearest to `± digits · 10^exponent`. Exponents so large or small that the answer
no longer depends on the digits are answered without computing the power. -/
def ofDecimal (negative : Bool) (digits : Nat) (exponent : Int) : Binary64 :=
  if digits = 0 then ofRank negative 0
  else if 400 < exponent then .infinite negative
  else if exponent < -(400 + (Nat.log2 digits : Int)) then ofRank negative 0
  else if 0 ≤ exponent then ofRatio negative (digits * Nat.pow 10 exponent.toNat) 1
  else ofRatio negative digits (Nat.pow 10 (-exponent).toNat)

def bounded? : Binary64 → Option Binary64
  | .infinite _ => none
  | x => some x

/-- The nearest number, unless that is past the finite ones. -/
def ofInt? (n : Int) : Option Binary64 := (ofRatio (decide (n < 0)) n.natAbs 1).bounded?

def isNegative : Binary64 → Bool
  | .nan => false
  | .infinite s | .finite s _ => s

def isFinite : Binary64 → Bool
  | .finite _ _ => true
  | _ => false

/-- A finite number's value in units of `2^-1074`. -/
def signedUnits : Binary64 → Int
  | .finite false r => (units r : Int)
  | .finite true r => -(units r : Int)
  | _ => 0

def toInt? (x : Binary64) : Option Int :=
  match x with
  | .finite _ _ =>
    if x.signedUnits % unitsPerOne = 0 then some (x.signedUnits / unitsPerOne) else none
  | _ => none

def truncate : Binary64 → Int
  | .finite false r => (units r / unitsPerOne : Nat)
  | .finite true r => -((units r / unitsPerOne : Nat) : Int)
  | _ => 0

def floor (x : Binary64) : Int := x.signedUnits / unitsPerOne

/-- The digits after the point, without the sign. -/
def fraction (x : Binary64) : Binary64 :=
  ofRatio false (x.signedUnits.natAbs % unitsPerOne) unitsPerOne

/-- How far the value lies above its floor. -/
def sinceFloor (x : Binary64) : Binary64 :=
  ofRatio false (x.signedUnits % unitsPerOne).toNat unitsPerOne

def divNat (x : Binary64) (n : Nat) : Binary64 :=
  ofRatio x.isNegative x.signedUnits.natAbs (n * unitsPerOne)

/-- Strict order of values; zeros of both signs are equal and a NaN is below and above nothing. -/
def lt : Binary64 → Binary64 → Bool
  | .nan, _ | _, .nan => false
  | .infinite s, .infinite t => s && !t
  | .infinite s, .finite _ _ => s
  | .finite _ _, .infinite t => !t
  | .finite s r, .finite t q =>
    (if s then -(r.val : Int) else r.val) < (if t then -(q.val : Int) else q.val)

/-- Twice exactly, then rounded: the product of two finite numbers. -/
def mul : Binary64 → Binary64 → Binary64
  | .finite s r, .finite t q => ofRatio (s != t) (units r * units q) (unitsPerOne * unitsPerOne)
  | .nan, _ | _, .nan => .nan
  | .infinite s, .finite t q | .finite t q, .infinite s =>
    if q.val = 0 then .nan else .infinite (s != t)
  | .infinite s, .infinite t => .infinite (s != t)

theorem ofRank_finite {negative : Bool} {rank : Nat} (h : rank < ranks) :
    ofRank negative rank = .finite negative ⟨rank, h⟩ := by
  simp [ofRank, h]

theorem lt_irrefl (x : Binary64) : lt x x = false := by
  cases x <;> simp [lt]

end Binary64
end TriggerFlow
