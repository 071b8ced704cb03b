import TriggerFlow.Json.Writer

/-!
Reading JSON text. Besides the standard grammar the names `NaN`, `Infinity` and `-Infinity` are
numbers, and of an object's repeated keys the last value counts. A fault knows how much of the
text was left when it was found.
-/

namespace TriggerFlow.Json

inductive SyntaxFault where
  | value
  | propertyName
  | colon
  | comma
  | trailing
  | unterminated
  | controlCharacter
  | escapeSequence
  | unicodeSequence
  | byteOrderMark
  deriving DecidableEq, Repr

def SyntaxFault.message : SyntaxFault → String
  | value => "Expecting value"
  | propertyName => "Expecting property name enclosed in double quotes"
  | colon => "Expecting ':' delimiter"
  | comma => "Expecting ',' delimiter"
  | trailing => "Extra data"
  | unterminated => "Unterminated string starting at"
  | controlCharacter => "Invalid control character at"
  | escapeSequence => "Invalid \\escape"
  | unicodeSequence => "Invalid \\uXXXX escape"
  | byteOrderMark => "Unexpected UTF-8 BOM (decode using utf-8-sig)"

inductive ReadFault where
  /-- `remaining` characters of the text start at the fault. -/
  | broken (fault : SyntaxFault) (remaining : Nat)
  | integerTooLong (digits : Nat)
  deriving DecidableEq, Repr

def isJsonBlank (c : Char) : Bool := c = ' ' || c = '\t' || c = '\n' || c = '\r'

def skipBlanks (cs : List Char) : List Char := cs.dropWhile isJsonBlank

def hex4? (a b c d : Char) : Option Nat := Numeral.ofHexDigits [a, b, c, d]

def simpleEscape? : Char → Option Char
  | '"' => some '"'
  | '\\' => some '\\'
  | '/' => some '/'
  | 'b' => some (Char.ofNat 8)
  | 'f' => some (Char.ofNat 12)
  | 'n' => some '\n'
  | 'r' => some '\r'
  | 't' => some '\t'
  | _ => none

/-- A string from after its opening quote, with what follows its closing one. `start` is how much
of the text begins at the opening quote. -/
def readString (start : Nat) : List Char → Except ReadFault (List Char × List Char)
  | [] => .error (.broken .unterminated start)
  | '"' :: rest => .ok ([], rest)
  | ['\\'] => .error (.broken .unterminated start)
  | '\\' :: 'u' :: a :: b :: c :: d :: '\\' :: 'u' :: e :: f :: g :: h :: i :: rest =>
    match hex4? a b c d with
    | none => .error (.broken .unicodeSequence (rest.length + 12))
    | some n =>
      if 0xd800 ≤ n ∧ n ≤ 0xdbff then
        match hex4? e f g h with
        | none => .error (.broken .unicodeSequence (rest.length + 6))
        | some m =>
          if 0xdc00 ≤ m ∧ m ≤ 0xdfff then
            (readString start (i :: rest)).map fun (cs, out) =>
              (Char.ofNat (0x10000 + (n - 0xd800) * 0x400 + (m - 0xdc00)) :: cs, out)
          else
            (readString start ('\\' :: 'u' :: e :: f :: g :: h :: i :: rest)).map fun (cs, out) =>
              (Text.Surrogate.charOf n :: cs, out)
      else
        (readString start ('\\' :: 'u' :: e :: f :: g :: h :: i :: rest)).map fun (cs, out) =>
          (Text.Surrogate.charOf n :: cs, out)
  | '\\' :: 'u' :: a :: b :: c :: d :: e :: rest =>
    match hex4? a b c d with
    | none => .error (.broken .unicodeSequence (rest.length + 6))
    | some n =>
      (readString start (e :: rest)).map fun (cs, out) => (Text.Surrogate.charOf n :: cs, out)
  | '\\' :: 'u' :: rest => .error (.broken .unicodeSequence (rest.length + 1))
  | '\\' :: c :: rest =>
    match simpleEscape? c with
    | none => .error (.broken .escapeSequence (rest.length + 2))
    | some e => (readString start rest).map fun (cs, out) => (e :: cs, out)
  | c :: rest =>
    if c.toNat < 0x20 then .error (.broken .controlCharacter (rest.length + 1))
    else (readString start rest).map fun (cs, out) => (c :: cs, out)

/-- The digits of a whole number: a zero alone, or digits that start with none. -/
def wholeDigits (cs : List Char) : List Char × List Char :=
  match cs with
  | '0' :: rest => (['0'], rest)
  | _ => (cs.takeWhile Char.isDigit, cs.dropWhile Char.isDigit)

def fractionDigits (cs : List Char) : List Char × List Char :=
  match cs with
  | '.' :: rest =>
    if (rest.head?.any Char.isDigit) then (rest.takeWhile Char.isDigit, rest.dropWhile Char.isDigit)
    else ([], cs)
  | _ => ([], cs)

def exponentPart (cs : List Char) : Option Int × List Char :=
  match cs with
  | e :: rest =>
    if e = 'e' || e = 'E' then
      let (negative, ds) := Numeral.takeSign rest
      if ds.head?.any Char.isDigit then
        let n : Int := Numeral.ofDigits (ds.takeWhile Char.isDigit)
        (some (if negative then -n else n), ds.dropWhile Char.isDigit)
      else (none, cs)
    else (none, cs)
  | [] => (none, cs)

def readNumber (cs : List Char) : Except ReadFault (Value × List Char) :=
  let (negative, body) := match cs with
    | '-' :: rest => (true, rest)
    | _ => (false, cs)
  let (whole, rest) := wholeDigits body
  if whole.isEmpty then .error (.broken .value cs.length)
  else
    let (fraction, rest) := fractionDigits rest
    let (exponent, rest) := exponentPart rest
    if fraction.isEmpty && exponent.isNone then
      if Numeral.maxDigits < whole.length then .error (.integerTooLong whole.length)
      else
        let n : Int := Numeral.ofDigits whole
        .ok (.int (if negative then -n else n), rest)
    else
      .ok (.float (Binary64.ofDecimal negative (Numeral.ofDigits (whole ++ fraction))
        (exponent.getD 0 - fraction.length)), rest)

def words : List (List Char × Value) :=
  [("null".toList, .null), ("true".toList, .bool true), ("false".toList, .bool false),
    ("NaN".toList, .float .nan), ("Infinity".toList, .float (.infinite false)),
    ("-Infinity".toList, .float (.infinite true))]

mutual

def readValue : Nat → List Char → Except ReadFault (Value × List Char)
  | 0, cs => .error (.broken .value cs.length)
  | _, [] => .error (.broken .value 0)
  | fuel + 1, c :: rest =>
    if c = '"' then
      (readString (rest.length + 1) rest).map fun (cs, out) => (.str (String.ofList cs), out)
    else if c = '[' then
      match skipBlanks rest with
      | ']' :: out => .ok (.arr [], out)
      | inner => (readElems fuel inner).map fun (xs, out) => (.arr xs, out)
    else if c = '\x7b' then
      match skipBlanks rest with
      | '\x7d' :: out => .ok (.obj [], out)
      | inner => (readMembers fuel inner).map fun (fs, out) => (.obj (Fields.ofPairs fs), out)
    else
      match words.find? fun w => w.1.isPrefixOf (c :: rest) with
      | some (w, v) => .ok (v, (c :: rest).drop w.length)
      | none => readNumber (c :: rest)

/-- The elements of a list from its first one on, through the closing bracket. -/
def readElems : Nat → List Char → Except ReadFault (List Value × List Char)
  | 0, cs => .error (.broken .value cs.length)
  | fuel + 1, cs => do
    let (x, rest) ← readValue fuel cs
    match skipBlanks rest with
    | ']' :: out => .ok ([x], out)
    | ',' :: more => (readElems fuel (skipBlanks more)).map fun (xs, out) => (x :: xs, out)
    | other => .error (.broken .comma other.length)

/-- The members of an object from its first key on, through the closing brace. -/
def readMembers : Nat → List Char → Except ReadFault (List (String × Value) × List Char)
  | 0, cs => .error (.broken .value cs.length)
  | fuel + 1, cs =>
    match cs with
    | '"' :: body => do
      let (key, rest) ← readString cs.length body
      match skipBlanks rest with
      | ':' :: after => do
        let (x, rest) ← readValue fuel (skipBlanks after)
        match skipBlanks rest with
        | '\x7d' :: out => .ok ([(String.ofList key, x)], out)
        | ',' :: more =>
          (readMembers fuel (skipBlanks more)).map fun (fs, out) =>
            ((String.ofList key, x) :: fs, out)
        | other => .error (.broken .comma other.length)
      | other => .error (.broken .colon other.length)
    | other => .error (.broken .propertyName other.length)

end

def readChars (cs : List Char) : Except ReadFault Value := do
  match cs with
  | '\ufeff' :: _ => .error (.broken .byteOrderMark cs.length)
  | _ =>
    let (v, rest) ← readValue (cs.length + 1) (skipBlanks cs)
    match skipBlanks rest with
    | [] => .ok v
    | other => .error (.broken .trailing other.length)

def ReadFault.position (length : Nat) : ReadFault → Nat
  | .broken _ remaining => length - remaining
  | .integerTooLong _ => 0

def ReadFault.failure (cs : List Char) : ReadFault → Failure
  | .integerTooLong n => .integerTooLongToRead n
  | .broken fault remaining =>
    let position := cs.length - remaining
    let before := cs.take position
    let line := before.count '\n' + 1
    let column := (before.reverse.takeWhile (· != '\n')).length + 1
    .badJson fault.message line column position

def read (s : String) : Except Failure Value :=
  (readChars s.toList).mapError (ReadFault.failure s.toList)

end TriggerFlow.Json
