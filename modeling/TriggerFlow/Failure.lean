import TriggerFlow.Fault
import TriggerFlow.Text.Search

/-!
Failures, by cause. The engine's own errors say what rule of the domain was broken and carry the
ids involved; the other causes are data that cannot be read, written or compared, and whatever a
collaborator (a dispatcher, a store, a listener) raises.
-/

namespace TriggerFlow

inductive ErrorKind where
  | general
  | invalidDefinition
  | noNodes
  | noTrigger
  | danglingConnection (connection : Option String)
  | workflowNotFound
  | workflowNotActive
  | executionNotFound (execution : Option String)
  | executionNotRunning
  | nodeFailed (node : String)
  | cycle (path : List String)
  | cancelled
  | persistence
  | unknownAction (action : Option String)
  | actionFailed (action : Option String) (status : Option Int)
  deriving DecidableEq, Repr

namespace ErrorKind

def name : ErrorKind → String
  | general => "AutomationError"
  | invalidDefinition => "ActivationError"
  | noNodes => "NoNodesError"
  | noTrigger => "NoTriggerError"
  | danglingConnection _ => "DanglingConnectionError"
  | workflowNotFound => "WorkflowNotFoundError"
  | workflowNotActive => "WorkflowNotActiveError"
  | executionNotFound _ => "ExecutionNotFoundError"
  | executionNotRunning => "ExecutionNotRunningError"
  | nodeFailed _ => "NodeExecutionError"
  | cycle _ => "CycleDetectedError"
  | cancelled => "ExecutionCancelledError"
  | persistence => "PersistenceError"
  | unknownAction _ => "UnknownActionError"
  | actionFailed _ _ => "ActionFailedError"

def code? : ErrorKind → Option String
  | invalidDefinition => some "invalid_definition"
  | noNodes => some "no_nodes"
  | noTrigger => some "no_trigger"
  | danglingConnection _ => some "dangling_connection"
  | _ => none

/-- The kinds an error is an instance of, from its own up to the most general. -/
def lineage (k : ErrorKind) : List String :=
  let own := if k = general then [] else [k.name]
  let family := if k.code?.isSome && k != invalidDefinition then [invalidDefinition.name] else []
  own ++ family ++ [general.name, "Exception"]

def ofName? : String → Option ErrorKind
  | "AutomationError" => some general
  | "ActivationError" => some invalidDefinition
  | "NoNodesError" => some noNodes
  | "NoTriggerError" => some noTrigger
  | "DanglingConnectionError" => some (danglingConnection none)
  | "WorkflowNotFoundError" => some workflowNotFound
  | "WorkflowNotActiveError" => some workflowNotActive
  | "ExecutionNotFoundError" => some (executionNotFound none)
  | "ExecutionNotRunningError" => some executionNotRunning
  | "NodeExecutionError" => some (nodeFailed "")
  | "CycleDetectedError" => some (cycle [])
  | "ExecutionCancelledError" => some cancelled
  | "PersistenceError" => some persistence
  | "UnknownActionError" => some (unknownAction none)
  | "ActionFailedError" => some (actionFailed none none)
  | _ => none

end ErrorKind

structure EngineError where
  kind : ErrorKind
  message : String
  workflow : Option String
  deriving DecidableEq, Repr

namespace EngineError

def cancelledMessage : String := "Execution cancelled"

def noNodes (workflow : Option String) : EngineError :=
  ⟨.noNodes, "Cannot activate workflow without nodes", workflow⟩

def noTrigger (workflow : Option String) : EngineError :=
  ⟨.noTrigger, "Cannot activate workflow without trigger node", workflow⟩

def noTriggerToRun (workflow : Option String) : EngineError :=
  ⟨.noTrigger, "No trigger node found", workflow⟩

def dangling (connection node : String) (workflow : Option String) : EngineError :=
  ⟨.danglingConnection (some connection),
    "Connection " ++ connection ++ " references unknown node " ++ node, workflow⟩

def workflowNotFound (workflow : Option String) : EngineError :=
  ⟨.workflowNotFound, "Workflow not found", workflow⟩

def workflowNotActive (workflow : Option String) : EngineError :=
  ⟨.workflowNotActive, "Workflow is not active", workflow⟩

def executionNotFound (execution : String) : EngineError :=
  ⟨.executionNotFound (some execution), "Execution not found", none⟩

/-- A cancel that came too late; `status` is how the execution had ended, if that is known. -/
def executionNotRunning (status : Option String) (workflow : String) : EngineError :=
  ⟨.executionNotRunning,
    "Execution is not running" ++ (status.map (": " ++ ·)).getD "", some workflow⟩

def nodeFailed (message node : String) (workflow : Option String) : EngineError :=
  ⟨.nodeFailed node, message, workflow⟩

def cycle (path : List String) (workflow : Option String) : EngineError :=
  ⟨.cycle path, "Cycle detected: " ++ Text.join " -> " path, workflow⟩

def cancelled (workflow : Option String) : EngineError := ⟨.cancelled, cancelledMessage, workflow⟩

def persistence (action reason : String) (workflow : Option String) : EngineError :=
  ⟨.persistence, "Failed to " ++ action ++ ": " ++ reason, workflow⟩

def noHandler (action : String) : EngineError :=
  ⟨.unknownAction (some action), "No handler registered for action: " ++ action, none⟩

def noHandlers (actions : List String) : EngineError :=
  ⟨.unknownAction none, "No handler registered for actions: " ++ Text.join ", " actions, none⟩

def actionFailed (action message : String) (status : Option Int) : EngineError :=
  ⟨.actionFailed (some action) status, message, none⟩

end EngineError

inductive OutputFault where
  | notPair (index : Nat)
  | wrongLength (index length : Nat)
  | badKey (type : String)
  deriving DecidableEq, Repr

def OutputFault.message : OutputFault → String
  | .notPair i => "cannot convert dictionary update sequence element #" ++ toString i ++
      " to a sequence"
  | .wrongLength i n => "dictionary update sequence element #" ++ toString i ++ " has length " ++
      toString n ++ "; 2 is required"
  | .badKey type => "unhashable type: '" ++ type ++ "'"

inductive Failure where
  | engine (e : EngineError)
  | invalid (faults : List Fault)
  /-- Stored data is no document of its kind; the text says how. -/
  | unreadable (faults : List Fault) (report : String)
  | integerPastDoubles
  | quotientPastDoubles
  | malformedInteger (text : String)
  | malformedFloat (text : String)
  | integerTooLongToRead (digits : Nat)
  | integerTooLongToWrite
  | notAmong (shown enumeration : String)
  | notFiniteJson
  | badJson (message : String) (line column position : Nat)
  | missingColumn (name : String)
  | clocksCompared
  | clocksSubtracted
  /-- A field of a thing that is not there. -/
  | nothingHas (field : String)
  | isNot (type ability : String)
  /-- A sequence has no fields; of text and lists the wording differs. -/
  | notIndices (isText : Bool)
  | output (fault : OutputFault)
  | headerNotText (type : String)
  /-- Text that must be ASCII has other characters from one position to another; a single one is
  shown. -/
  | notAscii (c : Option Char) (first last : Nat)
  | notUnicode (c : Option Char) (first last : Nat)
  | lacks (type ability : String)
  | notMapping (type : String)
  /-- A pair was expected, and there were fewer parts or, if no number is given, more. -/
  | wrongCount (parts : Option Nat)
  | cannotUnpack (type : String)
  | noScheme (address : String)
  | noAnswer
  | external (name message : String)
  deriving DecidableEq, Repr

namespace Failure

def name : Failure → String
  | engine e => e.kind.name
  | invalid _ | unreadable _ _ => "ValidationError"
  | integerPastDoubles | quotientPastDoubles => "OverflowError"
  | badJson _ _ _ _ => "JSONDecodeError"
  | missingColumn _ => "KeyError"
  | clocksCompared | clocksSubtracted | isNot _ _ | notIndices _ | headerNotText _ => "TypeError"
  | cannotUnpack _ | notMapping _ => "TypeError"
  | nothingHas _ | lacks _ _ => "AttributeError"
  | notAscii _ _ _ | notUnicode _ _ _ => "UnicodeEncodeError"
  | output (.notPair _) | output (.badKey _) => "TypeError"
  | output (.wrongLength _ _) => "ValueError"
  | noAnswer => ""
  | external name _ => name
  | _ => "ValueError"

def unencodable (encoding : String) (c : Option Char) (first last : Nat) : String :=
  "'" ++ encoding ++ "' codec can't encode " ++ (match c with
    | some c =>
      "character '" ++ String.ofList (Text.escaped c) ++ "' in position " ++ toString first
    | none => "characters in position " ++ toString first ++ "-" ++ toString last)

def digitLimit : String :=
  "Exceeds the limit (4300 digits) for integer string conversion"

def digitAdvice : String := "; use sys.set_int_max_str_digits() to increase the limit"

def message : Failure → String
  | engine e => e.message
  | invalid faults => toString faults.length ++ " validation errors"
  | unreadable _ report => report
  | quotientPastDoubles => "integer division result too large for a float"
  | integerPastDoubles => "int too large to convert to float"
  | malformedInteger s => "invalid literal for int() with base 10: " ++
      String.ofList ((Text.quotedChars s.toList).take 200)
  | malformedFloat s => "could not convert string to float: " ++ Text.quoted s
  | integerTooLongToRead n => digitLimit ++ ": value has " ++ toString n ++ " digits" ++ digitAdvice
  | integerTooLongToWrite => digitLimit ++ digitAdvice
  | notAmong shown enumeration => shown ++ " is not a valid " ++ enumeration
  | notFiniteJson => "Out of range float values are not JSON compliant"
  | badJson message line column position =>
      message ++ ": line " ++ toString line ++ " column " ++ toString column ++
        " (char " ++ toString position ++ ")"
  | missingColumn name => Text.quoted name
  | clocksCompared => "can't compare offset-naive and offset-aware datetimes"
  | clocksSubtracted => "can't subtract offset-naive and offset-aware datetimes"
  | nothingHas field => "'NoneType' object has no attribute '" ++ field ++ "'"
  | isNot type ability => "'" ++ type ++ "' object is not " ++ ability
  | notIndices true => "string indices must be integers, not 'str'"
  | notIndices false => "list indices must be integers or slices, not str"
  | output fault => fault.message
  | headerNotText type => "Header value must be str or bytes, not <class '" ++ type ++ "'>"
  | notAscii c first last => unencodable "ascii" c first last ++ ": ordinal not in range(128)"
  | notUnicode c first last => unencodable "utf-8" c first last ++ ": surrogates not allowed"
  | lacks type ability => "'" ++ type ++ "' object has no attribute '" ++ ability ++ "'"
  | notMapping type => "'" ++ type ++ "' object is not a mapping"
  | wrongCount (some n) =>
      "not enough values to unpack (expected 2, got " ++ toString n ++ ")"
  | wrongCount none => "too many values to unpack (expected 2)"
  | cannotUnpack type => "cannot unpack non-iterable " ++ type ++ " object"
  | noScheme address => "unknown url type: " ++ Text.quoted address
  | noAnswer => ""
  | external _ message => message

/-- The first run of characters that may not stand in a text as a failure: of one character, of
which that is shown, or of more. -/
def checkRun (isForeign : Char → Bool) (failure : Option Char → Nat → Nat → Failure)
    (s : String) : Except Failure Unit :=
  let position := (s.toList.takeWhile (!isForeign ·)).length
  match (s.toList.dropWhile (!isForeign ·)).takeWhile isForeign with
  | [] => .ok ()
  | [c] => .error (failure (some c) position position)
  | run => .error (failure none position (position + run.length - 1))

def checkAscii : String → Except Failure Unit := checkRun (0x80 ≤ ·.toNat) notAscii

def checkUnicode : String → Except Failure Unit := checkRun Text.Surrogate.isStandIn notUnicode

/-- The message, or the name of the class of failure when there is none. -/
def shown (f : Failure) : String := if f.message = "" then f.name else f.message

end Failure
end TriggerFlow
