import TriggerFlow.Action.Call
import TriggerFlow.Sources

/-!
A network that answers requests from a script, in order, and with success when the script has come
to its end. Requests are noted in order.
-/

namespace TriggerFlow.Rehearsal

structure Network where
  script : List Action.Delivery
  requests : List Action.WebRequest
  deriving Repr

namespace Network

def ofScript (script : List Action.Delivery) : Network := ⟨script, []⟩

def send (w : Network) (r : Action.WebRequest) : Action.Delivery × Network :=
  (w.script.headD (.answered 200), ⟨w.script.tail, w.requests ++ [r]⟩)

/-- What a handler of actions asks for, answered from the network and the supply of ids. -/
def answer : (c : Action.Call) → Network × Sources → Action.Reply c × Network × Sources
  | .freshId, (w, s) => let (id, s) := s.fresh; (id, w, s)
  | .send r, (w, s) => let (d, w) := w.send r; (d, w, s)

end Network
end TriggerFlow.Rehearsal
