import TriggerFlow.Http.Percent

/-!
Parameters in the query of an address: pairs of a name and a value, percent encoded, with a plus for
a blank.
-/

namespace TriggerFlow.Http.Query

def decodePart (cs : List Char) : String :=
  String.ofList (Percent.decode (cs.map fun c => if c = '+' then ' ' else c))

/-- A name and a value; without an equals sign the value is empty. -/
def pair (cs : List Char) : String × String :=
  (decodePart (cs.takeWhile (· != '=')), decodePart ((cs.dropWhile (· != '=')).drop 1))

def parse (query : List Char) : List (String × String) :=
  ((Text.splitAt '&' query).filter (!·.isEmpty)).map pair

/-- Parameters with those of `more` in place of others of the same names. -/
def merge (given more : List (String × String)) : List (String × String) :=
  given.filter (fun q => !more.any (·.1 == q.1)) ++ more

end TriggerFlow.Http.Query
