import TriggerFlow.Sources
import TriggerFlow.Store.Sql

/-!
A database that answers statements from a script, in order, and with null when the script has come
to its end. Statements are noted in order.
-/

namespace TriggerFlow.Rehearsal

open Store

structure Database where
  script : List (Except Failure Value)
  statements : List Sql.Statement

namespace Database

def ofScript (script : List (Except Failure Value)) : Database := ⟨script, []⟩

def send (d : Database) (s : Sql.Statement) : Except Failure Value × Database :=
  (d.script.headD (.ok .null), ⟨d.script.tail, d.statements ++ [s]⟩)

/-- What the store in a database asks for, answered from the script and the supply of ids. -/
def answer : (c : Sql.Call) → Database × Sources → Sql.Reply c × Database × Sources
  | .freshId, (d, s) => let (id, s) := s.fresh; (id, d, s)
  | .send statement, (d, s) => let (r, d) := d.send statement; (r, d, s)

end Database
end TriggerFlow.Rehearsal
