import TriggerFlow.Time.Timestamp

/-!
Why something is no moment. Text is judged as a date alone: whatever is wrong with the time of day
shows as something left over after the date.
-/

namespace TriggerFlow.Moment

inductive Flaw where
  | tooShort
  | yearDigits
  | separator
  | monthDigits
  | dayDigits
  | noSuchMonth
  | noSuchDay
  | tooLong
  | tooEarly
  | tooLate
  | notANumber
  | yearZero
  deriving DecidableEq, Repr

def Flaw.message : Flaw → String
  | tooShort => "input is too short"
  | yearDigits => "invalid character in year"
  | separator => "invalid date separator, expected `-`"
  | monthDigits => "invalid character in month"
  | dayDigits => "invalid character in day"
  | noSuchMonth => "month value is outside expected range of 1-12"
  | noSuchDay => "day value is outside expected range"
  | tooLong => "unexpected extra characters at the end of the input"
  | tooEarly => "dates before 0000 are not supported as unix timestamps"
  | tooLate => "dates after 9999 are not supported as unix timestamps"
  | notANumber => "NaN values not permitted"
  | yearZero => "year 0 is out of range"

/-- What is wrong with a count that is out of range. -/
def flawOfCount (count : Int) : Flaw := if count < 0 then .tooEarly else .tooLate

def flawOfFloat : Binary64 → Flaw
  | .nan => .notANumber
  | x => if x.isNegative then .tooEarly else .tooLate

/-- The first thing that keeps a text from being a date with nothing after it. -/
def flawOfDate (s : String) : Flaw :=
  if s.utf8ByteSize < 10 then .tooShort
  else match takeDigits? 4 s.toList with
    | none => .yearDigits
    | some (y, cs) => match expect? '-' cs with
      | none => .separator
      | some cs => match takeDigits? 2 cs with
        | none => .monthDigits
        | some (m, cs) => match expect? '-' cs with
          | none => .separator
          | some cs => match takeDigits? 2 cs with
            | none => .dayDigits
            | some (d, _) =>
              if m < 1 || 12 < m then .noSuchMonth
              else if d < 1 || daysInMonth y m < d then .noSuchDay
              else .tooLong

/-- A number of up to 64 bits is looked at as a count, any other text as a date. -/
def flawOfText (s : String) : Flaw :=
  let (negative, body) := Numeral.takeSign s.toList
  let n := Numeral.ofDigits body
  if !body.isEmpty && body.all Char.isDigit && n < 9223372036854775808 then
    if negative then .tooEarly else .tooLate
  else flawOfDate s

end TriggerFlow.Moment
