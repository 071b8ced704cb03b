import TriggerFlow.Time.Moment
import TriggerFlow.Text.Quoted

/-!
A clock and a supply of ids. The clock stands at the start of 2024 and moves by a fixed number of
microseconds with every reading; the ids are UUIDs that carry their number in front.
-/

namespace TriggerFlow

structure Sources where
  /-- How many microseconds pass from one reading of the clock to the next. -/
  tick : Int
  readings : Nat
  ids : Nat
  deriving DecidableEq, Repr

namespace Sources

def epoch : Int := 1704067200000000

def start (tick : Int) : Sources := ⟨tick, 0, 0⟩

def now (s : Sources) : Moment × Sources :=
  (.utc (epoch + ((s.readings + 1 : Nat) : Int) * s.tick), { s with readings := s.readings + 1 })

def idOf (n : Nat) : String :=
  let ds := Text.hexDigits 12 n
  String.ofList (ds.take 8) ++ "-" ++ String.ofList ((ds.drop 8).take 4) ++
    "-4000-8000-000000000000"

def fresh (s : Sources) : String × Sources := (idOf (s.ids + 1), { s with ids := s.ids + 1 })

end Sources
end TriggerFlow
