import TriggerFlow.Http.Message

/-!
Requests by which browsers ask whether pages of another origin may use the service. Every origin
and every header is welcome; methods have to be known, and private networks are not served.
-/

namespace TriggerFlow.Http.CrossOrigin

def methods : List String := ["DELETE", "GET", "HEAD", "OPTIONS", "PATCH", "POST", "PUT"]

def refusals (r : Request) (method : String) : List String :=
  (if methods.contains method then [] else ["method"]) ++
    (if (r.header? "access-control-request-private-network").isSome then ["private-network"]
      else [])

/-- The answer to a request that only asks for leave. -/
def leave? (r : Request) : Option Response :=
  match r.header? "origin", r.header? "access-control-request-method" with
  | some _, some method =>
    if r.method != "OPTIONS" then none
    else match refusals r method with
      | [] => some (.text 200 "OK")
      | refused => some (.text 400 ("Disallowed CORS " ++ Text.join ", " refused))
  | _, _ => none

end TriggerFlow.Http.CrossOrigin
