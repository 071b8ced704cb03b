import TriggerFlow.Number.Binary64
import TriggerFlow.Text.Search

/-!
Reading numbers from text. Two grammars share the plain decimal one: the wide grammar takes the
digits of any script, blanks at the ends and single underscores between digits; the plain one takes
none of these.
-/

namespace TriggerFlow.Numeral

/-- The value of a list of digits `0` to `9`, most significant first. -/
def ofDigits (ds : List Char) : Nat := ds.foldl (fun n c => 10 * n + (c.toNat - 48)) 0

/-- An optional sign, and whether it is a minus. -/
def takeSign : List Char → Bool × List Char
  | '-' :: cs => (true, cs)
  | '+' :: cs => (false, cs)
  | cs => (false, cs)

/-- The part after the digits: nothing, or an exponent. -/
def exponent? : List Char → Option Int
  | [] => some 0
  | c :: cs =>
    let (negative, ds) := takeSign cs
    if (c = 'e' || c = 'E') && !ds.isEmpty && ds.all Char.isDigit then
      some (if negative then -(ofDigits ds : Int) else ofDigits ds)
    else none

def decimal? (negative : Bool) (cs : List Char) : Option Binary64 :=
  let whole := cs.takeWhile Char.isDigit
  let rest := cs.dropWhile Char.isDigit
  let (fraction, rest) := match rest with
    | '.' :: more => (more.takeWhile Char.isDigit, more.dropWhile Char.isDigit)
    | _ => ([], rest)
  if whole.isEmpty && fraction.isEmpty then none
  else (exponent? rest).map fun e =>
    Binary64.ofDecimal negative (ofDigits (whole ++ fraction)) (e - fraction.length)

/-- The plain grammar: a sign, then a decimal or the name of an infinity or of not-a-number. -/
def plainFloat? (cs : List Char) : Option Binary64 :=
  let (negative, body) := takeSign cs
  let name := String.ofList (body.map Char.toLower)
  if name = "inf" || name = "infinity" then some (.infinite negative)
  else if name = "nan" then some .nan
  else decimal? negative body

/-- Digits of any script become ASCII digits and blanks of any kind spaces; what is left past
ASCII is marked as foreign to numbers. -/
def toAscii (c : Char) : Char :=
  if c.toNat < 127 then c
  else if Text.isBlank c then ' '
  else match Text.decimalValue? c with
    | some d => Char.ofNat (48 + d)
    | none => '?'

/-- The text without its underscores, each of which must stand between two digits. -/
def dropUnderscores (previous : Char) : List Char → Option (List Char)
  | [] => if previous = '_' then none else some []
  | c :: cs =>
    if c = '_' then if previous.isDigit then dropUnderscores c cs else none
    else if previous = '_' && !c.isDigit then none
    else (dropUnderscores c cs).map (c :: ·)

def float? (s : String) : Option Binary64 :=
  (dropUnderscores ' ' (Text.trimBy Text.isAsciiBlank (s.toList.map toAscii))).bind plainFloat?

inductive IntegerFault where
  | malformed
  | tooLong (digits : Nat)
  deriving DecidableEq, Repr

def maxDigits : Nat := 4300

/-- The digits of a number whose underscores stand alone and between digits. -/
def separated? (cs : List Char) : Option (List Char) :=
  if cs.head? = some '_' || cs.getLast? = some '_' || Text.isInfix ['_', '_'] cs then none
  else some (cs.filter (· != '_'))

/-- The wide grammar for integers. A number too long is refused before what follows it is seen. -/
def integer (s : String) : Except IntegerFault Int :=
  let (negative, body) := takeSign ((s.toList.map toAscii).dropWhile Text.isAsciiBlank)
  let number := body.takeWhile fun c => c.isDigit || c = '_'
  let rest := body.dropWhile fun c => c.isDigit || c = '_'
  match separated? number with
  | none => .error .malformed
  | some ds =>
    if maxDigits < ds.length then .error (.tooLong ds.length)
    else if ds.isEmpty || !rest.all Text.isAsciiBlank then .error .malformed
    else .ok (if negative then -(ofDigits ds : Int) else ofDigits ds)

def hexValue? (c : Char) : Option Nat :=
  if c.isDigit then some (c.toNat - 48)
  else if 'a' ≤ c ∧ c ≤ 'f' then some (c.toNat - 87)
  else if 'A' ≤ c ∧ c ≤ 'F' then some (c.toNat - 55)
  else none

def ofHexDigits (cs : List Char) : Option Nat :=
  cs.foldlM (fun n c => (hexValue? c).map (16 * n + ·)) 0

/-- An optional `0x`, after which one underscore may stand. -/
def dropHexMark : List Char → List Char
  | '0' :: x :: cs =>
    if x = 'x' || x = 'X' then (match cs with | '_' :: more => more | _ => cs) else '0' :: x :: cs
  | cs => cs

def hexadecimal? (cs : List Char) : Option Int := do
  let (negative, body) := takeSign (Text.trimBy Text.isAsciiBlank (cs.map toAscii))
  let ds ← separated? (dropHexMark body)
  if ds.isEmpty then none
  else (ofHexDigits ds).map fun n => if negative then -(n : Int) else n

/-- What is left of a number after the zeros in front of it, among which underscores may stand;
of zeros alone the last character. -/
def dropZeros (previous : Char) : List Char → Option (List Char)
  | [] => some [previous]
  | c :: cs =>
    if c = '0' || c = '_' then dropZeros c cs
    else if c.isDigit || c = '-' then some (c :: cs)
    else if c = '.' then some (previous :: c :: cs)
    else none

def withoutZeros? : List Char → Option (List Char)
  | [] => none
  | c :: cs =>
    if c = '0' then dropZeros c cs else if c.isDigit || c = '-' then some (c :: cs) else none

/-- A number without a fraction of zeros. -/
def withoutFraction (cs : List Char) : List Char :=
  match cs.dropWhile (· != '.') with
  | _ :: zeros =>
    if zeros.isEmpty || zeros.any (· != '0') then cs else cs.takeWhile (· != '.')
  | [] => cs

/-- An integer as JSON writes it: a minus if it is negative, and no needless zero. -/
def strictInteger (cs : List Char) : Except IntegerFault Int :=
  let (negative, body) := match cs with
    | '-' :: rest => (true, rest)
    | _ => (false, cs)
  let ds := body.takeWhile Char.isDigit
  let length := cs.length - body.length + ds.length
  match ds with
  | [] => .error .malformed
  | d :: more =>
    if d = '0' && !more.isEmpty then .error .malformed
    else if maxDigits < length then .error (.tooLong length)
    else if ds.length != body.length then .error .malformed
    else .ok (if negative then -(ofDigits ds : Int) else ofDigits ds)

/-- The grammar for integers in fields of documents: blanks at the ends, a plus, zeros in front, a
fraction of zeros and lone underscores are taken off before the number is read strictly. -/
def plainInteger (s : String) : Except IntegerFault Int :=
  let cs := match Text.trimBy Text.isPatternBlank s.toList with
    | '+' :: '-' :: _ => []
    | '+' :: rest => rest
    | cs => cs
  match withoutZeros? cs with
  | none => .error .malformed
  | some cs =>
    let cs := withoutFraction cs
    strictInteger ((separated? cs).getD cs)

end TriggerFlow.Numeral
