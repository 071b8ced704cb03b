import TriggerFlow.Number.Binary64

/-!
The decimal text of a double: the fewest digits that read back as the same number, and of those
the nearest. Magnitudes from `0.0001` up to below `10^16` are written positionally, others with an
exponent of at least two digits.
-/

namespace TriggerFlow.Binary64

/-- The value `digits · 10^exponent`. -/
structure Decimal where
  digits : Nat
  exponent : Int
  deriving DecidableEq, Repr

def Decimal.nearestRank (d : Decimal) : Nat :=
  if 0 ≤ d.exponent then Binary64.nearestRank (d.digits * Nat.pow 10 d.exponent.toNat) 1
  else Binary64.nearestRank d.digits (Nat.pow 10 (-d.exponent).toNat)

/-- A bound `p` with magnitude below `10^p`, the least one up to the accuracy of the logarithm. -/
def pointBound (u : Nat) : Int :=
  let low := ((Nat.log2 u : Int) - 1074) * 30103 / 100000
  let below (p : Int) : Bool :=
    if 0 ≤ p then u < unitsPerOne * Nat.pow 10 p.toNat
    else u * Nat.pow 10 (-p).toNat < unitsPerOne
  if below low then low else if below (low + 1) then low + 1 else low + 2

/-- The two multiples of `10^exponent` around a magnitude, the nearer first and of two equally
near the even one. -/
def neighbours (u : Nat) (exponent : Int) : List Decimal :=
  let num := if exponent < 0 then u * Nat.pow 10 (-exponent).toNat else u
  let den := if exponent < 0 then unitsPerOne else unitsPerOne * Nat.pow 10 exponent.toNat
  let near := roundDiv num den
  let far := if near = num / den then near + 1 else near - 1
  [⟨near, exponent⟩, ⟨far, exponent⟩]

def Decimal.stripped (d : Decimal) : Nat → Decimal
  | 0 => d
  | fuel + 1 =>
    if d.digits % 10 = 0 then Decimal.stripped ⟨d.digits / 10, d.exponent + 1⟩ fuel else d

/-- The shortest decimal that reads back as the number of this positive rank. The exact expansion
stands at the end of the search, so that there always is one. -/
def shortest (rank : Nat) : Decimal :=
  let u := units rank
  let point := pointBound u
  let found := (List.range 17).findSome? fun (n : Nat) =>
    (neighbours u (point - n - 1)).find? fun d => d.nearestRank == rank
  (found.getD ⟨u * Nat.pow 5 1074, -1074⟩).stripped 17

def zeros (n : Nat) : List Char := List.replicate n '0'

/-- The digits with a point after the first `point` of them, zeros filling either side. -/
def positional (digits : List Char) (point : Int) : List Char :=
  if point ≤ 0 then '0' :: '.' :: (zeros (-point).toNat ++ digits)
  else if digits.length ≤ point.toNat then
    digits ++ zeros (point.toNat - digits.length) ++ ['.', '0']
  else digits.take point.toNat ++ '.' :: digits.drop point.toNat

def exponential (digits : List Char) (exponent : Int) : List Char :=
  let mantissa := match digits with
    | d :: [] => [d]
    | d :: rest => d :: '.' :: rest
    | [] => []
  let e := Nat.toDigits 10 exponent.natAbs
  mantissa ++ 'e' :: (if exponent < 0 then '-' else '+') ::
    (if e.length < 2 then '0' :: e else e)

def magnitudeText (rank : Nat) : List Char :=
  if rank = 0 then ['0', '.', '0']
  else
    let d := shortest rank
    let digits := Nat.toDigits 10 d.digits
    let point := digits.length + d.exponent
    if -4 < point ∧ point ≤ 16 then positional digits point else exponential digits (point - 1)

def text : Binary64 → String
  | .nan => "nan"
  | .infinite s => if s then "-inf" else "inf"
  | .finite s r => String.ofList (if s then '-' :: magnitudeText r else magnitudeText r)

end TriggerFlow.Binary64
