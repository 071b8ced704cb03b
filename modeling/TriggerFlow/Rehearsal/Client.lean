import TriggerFlow.Http.Message
import TriggerFlow.Http.Query
import TriggerFlow.Http.Url

/-!
A client of the service. It takes an address relative to the root of the service, with a query and
a fragment if there are any, and sends what arrives there as a request. A body is JSON unless the
headers say something else.
-/

namespace TriggerFlow.Rehearsal.Client

/-- The path and query that an address means, percent encoded. -/
def locate (address : String) : Except Failure (List Char × Option (List Char)) := do
  let u ← Url.target address
  let path := if u.isAbsolute then u.path else Url.normalPath u.path
  return (if path.isEmpty then ['/'] else path, u.query)

def request (method address : String) (headers query : List (String × String)) (body : String) :
    Except Failure Http.Request := do
  let (path, written) ← locate address
  headers.forM fun h => do
    Failure.checkAscii h.1
    Failure.checkAscii h.2
  return {
    method := Text.upper method
    path := String.ofList path
    headers := headers ++ [("content-type", "application/json")]
    query := Http.Query.merge (Http.Query.parse (written.getD [])) query
    body }

end TriggerFlow.Rehearsal.Client
