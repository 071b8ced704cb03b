import TriggerFlow.Number.Numeral

/-!
Dates with a time of day, to the microsecond, on a wall clock that may know its offset from UTC.
Two moments can be compared and subtracted when both know their offset or neither does.
-/

namespace TriggerFlow

/-- `wall` counts microseconds from the start of 1970 as the wall clock shows them; `offset` is
how many microseconds that clock is ahead of UTC. -/
structure Moment where
  wall : Int
  offset : Option Int
  deriving DecidableEq, Repr

namespace Moment

def utc (microseconds : Int) : Moment := ⟨microseconds, some 0⟩

/-- The position on a common time line, for moments that agree on knowing their offset. -/
def instant (t : Moment) : Int := t.wall - t.offset.getD 0

def comparable (s t : Moment) : Bool := s.offset.isSome == t.offset.isSome

def since? (t s : Moment) : Option Int :=
  if comparable t s then some (t.instant - s.instant) else none

/-- Days from 1970-01-01 to a date of the Gregorian calendar, whose year is taken to start in
March so that the leap day comes last. -/
def daysOfDate (year month day : Int) : Int :=
  let y := if month ≤ 2 then year - 1 else year
  let m := if month ≤ 2 then month + 9 else month - 3
  365 * y + y / 4 - y / 100 + y / 400 + (153 * m + 2) / 5 + day - 1 - 719468

def dateOfDays (days : Int) : Int × Int × Int :=
  let z := days + 719468
  let era := z / 146097
  let dayOfEra := z % 146097
  let yearOfEra := (dayOfEra - dayOfEra / 1460 + dayOfEra / 36524 - dayOfEra / 146096) / 365
  let dayOfYear := dayOfEra - (365 * yearOfEra + yearOfEra / 4 - yearOfEra / 100)
  let m := (5 * dayOfYear + 2) / 153
  let month := if m < 10 then m + 3 else m - 9
  let year := yearOfEra + era * 400 + (if month ≤ 2 then 1 else 0)
  (year, month, dayOfYear - (153 * m + 2) / 5 + 1)

def isLeap (year : Int) : Bool := year % 4 = 0 && (year % 100 != 0 || year % 400 = 0)

def daysInMonth (year month : Int) : Int :=
  if month = 2 then if isLeap year then 29 else 28
  else if month = 4 || month = 6 || month = 9 || month = 11 then 30 else 31

def pad (width : Nat) (n : Int) : String :=
  let ds := Nat.toDigits 10 n.natAbs
  String.ofList (List.replicate (width - ds.length) '0' ++ ds)

def dateText (t : Moment) : String :=
  let (y, m, d) := dateOfDays (t.wall / 86400000000)
  pad 4 y ++ "-" ++ pad 2 m ++ "-" ++ pad 2 d

/-- Hours, minutes and seconds, and six more digits when they are not all zero. -/
def timeText (t : Moment) : String :=
  let us := t.wall % 86400000000
  let s := us / 1000000
  pad 2 (s / 3600) ++ ":" ++ pad 2 (s / 60 % 60) ++ ":" ++ pad 2 (s % 60) ++
    (if us % 1000000 = 0 then "" else "." ++ pad 6 (us % 1000000))

def offsetText (offset : Int) : String :=
  let us : Int := offset.natAbs
  let n := us / 1000000
  (if offset < 0 then "-" else "+") ++ pad 2 (n / 3600) ++ ":" ++ pad 2 (n / 60 % 60) ++
    (if us % 60000000 = 0 then "" else ":" ++ pad 2 (n % 60)) ++
    (if us % 1000000 = 0 then "" else "." ++ pad 6 (us % 1000000))

def textWith (separator : String) (t : Moment) : String :=
  t.dateText ++ separator ++ t.timeText ++ (t.offset.map offsetText).getD ""

/-- As records and messages write it: `2024-01-01T00:00:01+00:00`. -/
def isoText (t : Moment) : String := t.textWith "T"

/-- As running text writes it: `2024-01-01 00:00:01+00:00`. -/
def plainText (t : Moment) : String := t.textWith " "

/-- An offset in whole minutes, the rest cut off; less than a second is none at all. -/
def documentOffset (offset : Int) : String :=
  let seconds := offset / 1000000
  let minutes : Int := (seconds.natAbs / 60 : Nat)
  if seconds = 0 then "Z"
  else (if seconds < 0 then "-" else "+") ++ pad 2 (minutes / 60) ++ ":" ++ pad 2 (minutes % 60)

/-- As documents write it: the offset zero is `Z`. -/
def documentText (t : Moment) : String :=
  t.dateText ++ "T" ++ t.timeText ++ (t.offset.map documentOffset).getD ""

def offsetLiteral (offset : Int) : String :=
  let part (name : String) (n : Int) : List String :=
    if n = 0 then [] else [name ++ "=" ++ toString n]
  if offset = 0 then "datetime.timezone.utc"
  else "datetime.timezone(datetime.timedelta(" ++ String.intercalate ", "
    (part "days" (offset / 86400000000) ++ part "seconds" (offset % 86400000000 / 1000000) ++
      part "microseconds" (offset % 1000000)) ++ "))"

/-- As messages show it, part by part; seconds and microseconds only as far as there are any. -/
def literal (t : Moment) : String :=
  let (y, m, d) := dateOfDays (t.wall / 86400000000)
  let us := t.wall % 86400000000
  let s := us / 1000000
  let fine := if us % 1000000 != 0 then [s % 60, us % 1000000]
    else if s % 60 != 0 then [s % 60] else []
  "datetime.datetime(" ++ String.intercalate ", "
    (([y, m, d, s / 3600, s / 60 % 60] ++ fine).map toString ++
      (t.offset.map fun o => "tzinfo=" ++ offsetLiteral o).toList) ++ ")"

def inCalendar (t : Moment) : Bool := 1 ≤ (dateOfDays (t.wall / 86400000000)).1

def takeDigits? (n : Nat) (cs : List Char) : Option (Int × List Char) :=
  let ds := cs.take n
  if ds.length = n && ds.all Char.isDigit then some (Numeral.ofDigits ds, cs.drop n) else none

def expect? (c : Char) : List Char → Option (List Char)
  | d :: cs => if d = c then some cs else none
  | [] => none

def date? (cs : List Char) : Option (Int × List Char) := do
  let (y, cs) ← takeDigits? 4 cs
  let (m, cs) ← takeDigits? 2 (← expect? '-' cs)
  let (d, cs) ← takeDigits? 2 (← expect? '-' cs)
  if 1 ≤ m ∧ m ≤ 12 ∧ 1 ≤ d ∧ d ≤ daysInMonth y m then some (daysOfDate y m d, cs)
  else none

/-- The fraction of a second in microseconds; digits after the sixth are dropped. -/
def fraction? (cs : List Char) : Option (Int × List Char) :=
  match cs with
  | c :: rest =>
    if c = '.' || c = ',' then
      let ds := rest.takeWhile Char.isDigit
      if ds.isEmpty then none
      else
        let six := (ds ++ List.replicate 6 '0').take 6
        some (Numeral.ofDigits six, rest.dropWhile Char.isDigit)
    else some (0, cs)
  | [] => some (0, cs)

def seconds? (cs : List Char) : Option (Int × Int × List Char) :=
  match cs with
  | ':' :: rest => do
    let (s, rest) ← takeDigits? 2 rest
    let (us, rest) ← fraction? rest
    some (s, us, rest)
  | _ => some (0, 0, cs)

/-- Microseconds of the day: hours and minutes, then seconds and a fraction if they are there. -/
def time? (cs : List Char) : Option (Int × List Char) := do
  let (h, cs) ← takeDigits? 2 cs
  let (m, cs) ← takeDigits? 2 (← expect? ':' cs)
  let (s, us, cs) ← seconds? cs
  if h ≤ 23 ∧ m ≤ 59 ∧ s ≤ 59 then some ((h * 3600 + m * 60 + s) * 1000000 + us, cs) else none

def offset? : List Char → Option (Int × List Char)
  | 'Z' :: rest | 'z' :: rest => some (0, rest)
  | sign :: cs => do
    let direction : Int ← if sign = '+' then some 1
      else if sign = '-' || sign = '\u2212' then some (-1) else none
    let (h, cs) ← takeDigits? 2 cs
    let (m, rest) ← takeDigits? 2 (match cs with | ':' :: more => more | _ => cs)
    if m ≤ 59 ∧ h ≤ 23 then some (direction * (h * 3600 + m * 60) * 1000000, rest) else none
  | [] => none

/-- A date, a separator, a time, and an offset or nothing; or a date alone, which stands for its
midnight. -/
def ofIso? (s : String) : Option Moment := do
  match ← date? s.toList with
  | (days, []) => some ⟨days * 86400000000, none⟩
  | (days, sep :: rest) =>
    if sep = 'T' || sep = 't' || sep = ' ' || sep = '_' then do
      match ← time? rest with
      | (us, []) => some ⟨days * 86400000000 + us, none⟩
      | (us, rest) =>
        let (offset, rest) ← offset? rest
        if rest.isEmpty then some ⟨days * 86400000000 + us, some offset⟩ else none
    else none

/-- What `isoText` writes: the offset may have seconds and a fraction of its own. -/
def ofIsoText? (s : String) : Option Moment := do
  let (days, rest) ← date? s.toList
  let (us, rest) ← time? (← expect? 'T' rest)
  match rest with
  | [] => some ⟨days * 86400000000 + us, none⟩
  | sign :: _ =>
    let (offset, rest) ← offset? rest
    let (s, f, rest) ← seconds? rest
    let more := s * 1000000 + f
    if rest.isEmpty && s ≤ 59 then
      some ⟨days * 86400000000 + us, some (if sign = '-' then offset - more else offset + more)⟩
    else none

end Moment
end TriggerFlow
