import TriggerFlow.Action.Webhook

/-!
Handlers for the kinds of action. All but the webhook only pretend to act: they render their
configuration and report success. A registry knows which kinds have a handler; the default one
insists on all of them.
-/

namespace TriggerFlow.Action

def rendered (config : Fields) (key : String) (context : Value) : Except Failure Value := do
  return .str (← Template.render context (← Webhook.setting config key ""))

def sendEmailOutput (config : Fields) (context : Value) : Except Failure Fields := do
  return [("email_sent", .bool true), ("recipient", ← rendered config "recipient" context),
    ("subject", ← rendered config "subject" context)]

def sendSmsOutput (config : Fields) (context : Value) : Except Failure Fields := do
  return [("sms_sent", .bool true), ("phone", ← rendered config "phone" context)]

/-- The first twelve digits of a fresh id name the task. -/
def taskId (id : String) : String :=
  "task_" ++ String.ofList ((id.toList.filter (· != '-')).take 12)

def createTaskOutput (id : String) (config : Fields) (context : Value) : Except Failure Fields := do
  return [("task_created", .bool true), ("task_id", .str (taskId id)),
    ("title", ← rendered config "title" context)]

def updateRecordOutput (config : Fields) (context : Value) : Except Failure Fields := do
  return [("record_updated", .bool true), ("table", Value.field config "table"),
    ("fields", ← Template.renderValue context ((config.get? "fields").getD (.obj [])))]

def sendNotificationOutput (config : Fields) (context : Value) : Except Failure Fields := do
  return [("notification_sent", .bool true), ("message", ← rendered config "message" context)]

def logEventOutput (config : Fields) (context : Value) : Except Failure Fields := do
  return [("event_logged", .bool true), ("message", ← rendered config "message" context)]

def handle (settings : HandlerSettings) (config : Fields) (context : Value) :
    Action → Task (Except Failure Fields)
  | sendEmail => pure (sendEmailOutput config context)
  | sendSms => pure (sendSmsOutput config context)
  | createTask => do return createTaskOutput (← freshId) config context
  | updateRecord => pure (updateRecordOutput config context)
  | callWebhook => Webhook.handle settings config context
  | sendNotification => pure (sendNotificationOutput config context)
  | logEvent => pure (logEventOutput config context)

structure Registry where
  settings : HandlerSettings
  registered : List Action
  deriving Repr

namespace Registry

def missing (r : Registry) : List Action := Action.all.filter fun a => !r.registered.contains a

/-- A registry in which no kind of action may be missing. -/
def complete (settings : HandlerSettings) (registered : List Action) :
    Except EngineError Registry :=
  let r : Registry := ⟨settings, registered⟩
  if r.missing.isEmpty then .ok r else .error (.noHandlers (r.missing.map Action.name))

def invoke (r : Registry) (a : Action) (config : Fields) (context : Value) :
    Task (Except Failure Fields) :=
  if r.registered.contains a then a.handle r.settings config context
  else pure (.error (.engine (.noHandler a.name)))

/-- The handler of an action given by name; what names none has none. -/
def invokeNamed (r : Registry) (name : String) (config : Fields) (context : Value) :
    Task (Except Failure Fields) :=
  match Action.ofName? name with
  | some a => r.invoke a config context
  | none => pure (.error (.engine (.noHandler name)))

end Registry
end TriggerFlow.Action
