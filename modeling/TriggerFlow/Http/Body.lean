import TriggerFlow.Http.Percent
import TriggerFlow.Json.Reader
import TriggerFlow.Text.Case

/-!
Bodies of requests. A body is read as JSON if its content type says so; the encoding of its text is
seen from the zeros among its first bytes, since JSON starts with two ASCII characters.
-/

namespace TriggerFlow.Http.Body

def namesJson (contentType : String) : Bool :=
  let kind := Text.lower (Text.trim (String.ofList (contentType.toList.takeWhile (· != ';'))))
  match Text.splitAt '/' kind.toList with
  | [main, sub] =>
    String.ofList main = "application" &&
      (String.ofList sub = "json" || "+json".toList.isSuffixOf sub)
  | _ => false

inductive Encoding where
  | utf8
  | utf16 (bigEndian : Bool)
  | utf32 (bigEndian : Bool)
  deriving DecidableEq, Repr

def encodingOf : List Nat → Encoding
  | a :: b :: c :: d :: _ =>
    if a = 0 then if b = 0 then .utf32 true else .utf16 true
    else if b = 0 then if c = 0 && d = 0 then .utf32 false else .utf16 false
    else .utf8
  | [a, b] => if a = 0 then .utf16 true else if b = 0 then .utf16 false else .utf8
  | _ => .utf8

/-- Bytes in groups of two, each as one number; `none` if one byte is left. -/
def pairs? (bigEndian : Bool) : List Nat → Option (List Nat)
  | [] => some []
  | a :: b :: rest =>
    (pairs? bigEndian rest).map ((if bigEndian then 0x100 * a + b else a + 0x100 * b) :: ·)
  | [_] => none

/-- The characters of units of two bytes: two halves of a surrogate pair make one. -/
def joinHalves : List Nat → List Char
  | a :: b :: rest =>
    if 0xd800 ≤ a ∧ a < 0xdc00 ∧ 0xdc00 ≤ b ∧ b < 0xe000 then
      Char.ofNat (0x10000 + (a - 0xd800) * 0x400 + (b - 0xdc00)) :: joinHalves rest
    else Text.Surrogate.charOf a :: joinHalves (b :: rest)
  | [a] => [Text.Surrogate.charOf a]
  | [] => []

/-- The characters of units of four bytes, given as two numbers each. -/
def fourBytes? (bigEndian : Bool) : List Nat → Option (List Char)
  | [] => some []
  | a :: b :: rest =>
    let n := if bigEndian then 0x10000 * a + b else a + 0x10000 * b
    if n < 0x110000 then (fourBytes? bigEndian rest).map (Text.Surrogate.charOf n :: ·) else none
  | [_] => none

/-- The characters that the bytes of a text mean; a mark of the byte order is no part of it. -/
def characters? (body : String) : Option (List Char) :=
  match body.toList with
  | '\ufeff' :: cs => some cs
  | cs =>
    let bytes := cs.flatMap Percent.utf8
    match encodingOf bytes with
    | .utf8 => some cs
    | .utf16 bigEndian => (pairs? bigEndian bytes).map joinHalves
    | .utf32 bigEndian => (pairs? bigEndian bytes).bind (fourBytes? bigEndian)

inductive Fault where
  | broken (position : Nat)
  | unreadable
  deriving DecidableEq, Repr

def read (body : String) : Except Fault Value :=
  match characters? body with
  | none => .error .unreadable
  | some cs =>
    match Json.readChars cs with
    | .ok v => .ok v
    | .error (.broken _ remaining) => .error (.broken (cs.length - remaining))
    | .error (.integerTooLong _) => .error .unreadable

end TriggerFlow.Http.Body
