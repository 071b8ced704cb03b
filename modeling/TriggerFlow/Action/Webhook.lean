import TriggerFlow.Action.Call
import TriggerFlow.Config
import TriggerFlow.Http.Url
import TriggerFlow.Template
import TriggerFlow.Workflow.Basic

/-!
The webhook action. Address, headers and payload are templates; the payload is sent as compact JSON
and defaults to the whole context. A status from 400 on fails the action, and so does a request that
does not get through. With webhooks switched off nothing is sent.
-/

namespace TriggerFlow.Action.Webhook

def failed (message : String) (status : Option Int) : Failure :=
  .engine (.actionFailed Action.callWebhook.name message status)

def headerValue : Value → Except Failure String
  | .str s => do Failure.checkAscii s; return s
  | v => .error (.headerNotText v.typeName)

def header (name : String) (value : Value) : Except Failure (String × String) := do
  Failure.checkAscii name
  return (Text.lowerAscii name, ← headerValue value)

/-- A header given as a pair in a list. -/
def headerOfPair : Value → Except Failure (String × String)
  | .arr [.str name, value] => header name value
  | .arr [v, _] => .error (.lacks v.typeName "encode")
  | .arr (_ :: _ :: _ :: _) => .error (.wrongCount none)
  | .arr xs => .error (.wrongCount (some xs.length))
  | .str s => match s.toList with
    | [a, b] => header (String.singleton a) (.str (String.singleton b))
    | _ :: _ :: _ :: _ => .error (.wrongCount none)
    | cs => .error (.wrongCount (some cs.length))
  | .obj fs => match fs with
    | [(a, _), (b, _)] => header a (.str b)
    | _ :: _ :: _ :: _ => .error (.wrongCount none)
    | _ => .error (.wrongCount (some fs.length))
  | v => .error (.cannotUnpack v.typeName)

def extraHeaders : Value → Except Failure (List (String × String))
  | .null => .ok []
  | .obj fs => fs.mapM fun f => header f.1 f.2
  | .arr xs => xs.mapM headerOfPair
  | .str s => s.toList.mapM fun c => headerOfPair (.str (String.singleton c))
  | v => .error (.isNot v.typeName "iterable")

/-- Headers of one name as one, their values joined in order. -/
def merged (hs : List (String × String)) : List (String × String) :=
  hs.foldl (fun acc h => match acc.lookup h.1 with
    | some _ => acc.map fun g => if g.1 = h.1 then (g.1, g.2 ++ ", " ++ h.2) else g
    | none => acc ++ [h]) []

/-- The content type of JSON unless another is given, then the extra headers. -/
def headers (extra : List (String × String)) : List (String × String) :=
  let given := merged extra
  if (given.lookup "content-type").isSome then given
  else ("content-type", "application/json") :: given

/-- The headers with credentials that are part of the address, in place of any others. -/
def withCredentials (credentials : Option String) (hs : List (String × String)) :
    List (String × String) :=
  match credentials with
  | some c => hs.filter (·.1 != "authorization") ++ [("authorization", c)]
  | none => hs

def body : Value → Except Failure String
  | .null => .ok ""
  | v => do
    let text ← Json.write .strict v
    Failure.checkUnicode text
    return text

/-- A configuration entry as text; an absent one is empty or what it defaults to. -/
def setting (config : Fields) (key default : String) : Except Failure String :=
  match config.get? key with
  | some v => v.setting
  | none => .ok default

def address (config : Fields) (context : Value) : Except Failure String := do
  Template.render context (← setting config "url" "")

def request (url : String) (config : Fields) (context : Value) :
    Except Failure (Url × WebRequest) := do
  let method := Text.upper (← setting config "method" "POST")
  let extra ← Template.renderValue context ((config.get? "headers").getD (.obj []))
  let payload ← match config.get? "payload" with
    | some v => Template.renderValue context v
    | none => pure context
  let target ← Url.target url
  let extra ← extraHeaders extra
  let headers := withCredentials target.credentials? (headers extra)
  return (target, ⟨method, target.text, headers, ← body payload⟩)

/-- The output of a call that was answered, or why it counts as failed. An answer cannot be placed
if the address it was sent to is not a whole one. -/
def result (url : String) (target : Url) : Delivery → Except Failure Fields
  | .answered status =>
    if !target.isAbsolute then .error (.noScheme target.text)
    else if 400 ≤ status then
      .error (failed ("Webhook returned " ++ toString status) (some status))
    else .ok [("webhook_called", .bool true), ("url", .str url), ("status_code", .int status)]
  | .lost message => .error (failed ("Webhook call failed: " ++ message) none)
  | .broken f => .error f

def simulated (url : String) : Fields :=
  [("webhook_called", .bool true), ("url", .str url), ("status_code", .null),
    ("simulated", .bool true)]

def handle (settings : HandlerSettings) (config : Fields) (context : Value) :
    Task (Except Failure Fields) :=
  match address config context with
  | .error f => pure (.error f)
  | .ok url =>
    if url = "" then pure (.error (failed "Webhook URL is not configured" none))
    else if !settings.webhooksEnabled then pure (.ok (simulated url))
    else match request url config context with
      | .error f => pure (.error f)
      | .ok (target, r) => do return result url target (← send r)

end TriggerFlow.Action.Webhook
