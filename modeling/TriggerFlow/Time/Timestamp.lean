import TriggerFlow.Time.Moment

/-!
Moments given as counts from the start of 1970 in UTC, as whole numbers, doubles or text. A count
past twenty thousand million stands for milliseconds, a smaller one for seconds.
-/

namespace TriggerFlow.Moment

def watershed : Nat := 20000000000

/-- The moment of a count, some microseconds later. It has to lie in the years 0 to 9999. -/
def ofTimestamp? (count : Int) (microseconds : Nat) : Option Moment :=
  let us := (if count.natAbs ≤ watershed then count * 1000000 else count * 1000) + microseconds
  if -62167219200000000 ≤ us ∧ us < 253402300800000000 then some (utc us) else none

/-- A fraction of a second in microseconds, computed in doubles; a half goes up. -/
def microsecondsOf (fraction : Binary64) : Nat :=
  let units := ((fraction.mul (.ofRatio false 1000000 1)).signedUnits).toNat
  (2 * units + Binary64.unitsPerOne) / (2 * Binary64.unitsPerOne)

/-- A double is the count just below it; the digits after its point, whatever its sign, are a
fraction of a second to add. -/
def ofFloat? (x : Binary64) : Option Moment :=
  if x.isFinite then ofTimestamp? x.floor (microsecondsOf x.fraction) else none

/-- A double written as text stands for milliseconds or seconds as a whole; its seconds are then
a count of their own. -/
def ofWrittenFloat? (x : Binary64) : Option Moment :=
  let inSeconds := x.signedUnits.natAbs ≤ watershed * Binary64.unitsPerOne
  let seconds := if inSeconds then x else x.divNat 1000
  if seconds.isFinite then ofTimestamp? seconds.floor (microsecondsOf seconds.sinceFloor) else none

def ofNumber? (s : String) : Option Moment :=
  let (negative, body) := Numeral.takeSign s.toList
  if body.isEmpty then none
  else if body.all Char.isDigit then
    ofTimestamp? (if negative then -(Numeral.ofDigits body : Int) else Numeral.ofDigits body) 0
  else (Numeral.decimal? negative body).bind ofWrittenFloat?

/-- A date, alone or with a time, or a count. -/
def ofText? (s : String) : Option Moment := (ofIso? s).orElse fun _ => ofNumber? s

end TriggerFlow.Moment
