import TriggerFlow.Proofs.Json.Numbers
import TriggerFlow.Time.Timestamp

/-!
Moments of UTC read back from the text that documents hold. The count of days is inverted year by
year: years start in March, so that a year is one day longer where a leap day ends it.
-/

namespace TriggerFlow.Moment

variable {t : Moment} {days y m d n : Int} {width : Nat} {cs rest : List Char}

section Calendar

/-- The days before a year that starts in March, from the start of the year 0 on. -/
def yearStart (y : Int) : Int := 365 * y + y / 4 - y / 100 + y / 400

/-- The days of an era without its leap days. -/
def commonDays (day : Int) : Int := day - day / 1460 + day / 36524 - day / 146096

theorem commonDays_mono {a b : Int} (h : a ≤ b) : commonDays a ≤ commonDays b := by
  unfold commonDays
  omega

theorem commonDays_yearStart : ∀ y : Nat, y < 400 →
    365 * (y : Int) ≤ commonDays (yearStart y) ∧
      commonDays (yearStart (y + 1) - 1) < 365 * (y + 1) := by
  decide +kernel

/-- The year of a day of an era is the one in which the day lies. -/
theorem yearStart_bounds {day : Int} (first : 0 ≤ day) (last : day < 146097) :
    yearStart (commonDays day / 365) ≤ day ∧ day < yearStart (commonDays day / 365 + 1) := by
  obtain ⟨y, same⟩ : ∃ y : Nat, commonDays day / 365 = y := Int.eq_ofNat_of_zero_le (by
    unfold commonDays
    omega)
  have inside : y < 400 := by
    unfold commonDays at same
    omega
  rw [same]
  refine ⟨Int.not_lt.mp fun early => ?_, Int.not_le.mp fun late => ?_⟩
  · cases y with
    | zero => exact Int.not_le.mpr early first
    | succ y =>
        have before := commonDays_mono (Int.le_sub_one_of_lt early)
        have bound := (commonDays_yearStart y (by omega)).2
        push_cast at before same
        omega
  · have after := commonDays_mono late
    by_cases more : y + 1 < 400
    · have bound := (commonDays_yearStart (y + 1) more).1
      push_cast at bound
      omega
    · obtain rfl : y = 399 := by omega
      exact Int.not_le.mpr last late

theorem isLeap_iff : isLeap y = true ↔ y % 4 = 0 ∧ (y % 100 ≠ 0 ∨ y % 400 = 0) := by
  simp [isLeap]

theorem yearStart_era (y era : Int) :
    yearStart (y + era * 400) = yearStart y + era * 146097 := by
  have four : (y + era * 400) / 4 = y / 4 + era * 100 := by omega
  have hundred : (y + era * 400) / 100 = y / 100 + era * 4 := by omega
  have whole : (y + era * 400) / 400 = y / 400 + era := by omega
  rw [yearStart, yearStart, four, hundred, whole]
  omega

theorem isLeap_era (y era : Int) : isLeap (y + era * 400) = isLeap y := by
  have four : (y + era * 400) % 4 = y % 4 := by omega
  have hundred : (y + era * 400) % 100 = y % 100 := by omega
  have whole : (y + era * 400) % 400 = y % 400 := by omega
  rw [isLeap, isLeap, four, hundred, whole]

/-- A year is a day longer where the next calendar year is a leap year. -/
theorem yearStart_succ (y : Int) :
    yearStart (y + 1) = yearStart y + if isLeap (y + 1) then 366 else 365 := by
  have four : (y + 1) / 4 = y / 4 + if (y + 1) % 4 = 0 then 1 else 0 := by split <;> omega
  have hundred : (y + 1) / 100 = y / 100 + if (y + 1) % 100 = 0 then 1 else 0 := by
    split <;> omega
  have whole : (y + 1) / 400 = y / 400 + if (y + 1) % 400 = 0 then 1 else 0 := by split <;> omega
  unfold yearStart
  simp only [isLeap_iff]
  split at four <;> split at hundred <;> split at whole <;> split <;> omega

/-- The days of a month, which is counted from March on. Only the last one ends with its year, and
has the leap day. -/
theorem day_le_daysInMonth {day month : Int} (within : month = (5 * day + 2) / 153)
    (first : 0 ≤ day) (last : day ≤ 365) (leap : day = 365 → isLeap y = true) :
    day - (153 * month + 2) / 5 + 1 ≤
      daysInMonth y (if month < 10 then month + 3 else month - 9) := by
  have among : month = 0 ∨ month = 1 ∨ month = 2 ∨ month = 3 ∨ month = 4 ∨ month = 5 ∨ month = 6 ∨
      month = 7 ∨ month = 8 ∨ month = 9 ∨ month = 10 ∨ month = 11 := by omega
  by_cases february : month = 11
  · subst february
    by_cases longer : isLeap y = true
    · simp [daysInMonth, longer]
      omega
    · have shorter : day ≠ 365 := fun same => longer (leap same)
      simp [daysInMonth, longer]
      omega
  · obtain rfl | rfl | rfl | rfl | rfl | rfl | rfl | rfl | rfl | rfl | rfl | rfl := among <;>
      simp [daysInMonth] <;> omega

/-- A month as it is counted from March on, in a year that starts then, as one of the calendar. -/
structure FromMarch (k f y m : Int) : Prop where
  month : m = if f < 10 then f + 3 else f - 9
  year : y = k + if m ≤ 2 then 1 else 0
  first : 0 ≤ f
  last : f < 12

theorem daysOfDate_of_march {k f : Int} (h : FromMarch k f y m) :
    daysOfDate y m d = yearStart k + (153 * f + 2) / 5 + d - 719469 := by
  obtain ⟨rfl, rfl, first, last⟩ := h
  have year : (if (if f < 10 then f + 3 else f - 9) ≤ 2
      then (k + if (if f < 10 then f + 3 else f - 9) ≤ 2 then 1 else 0) - 1
      else k + if (if f < 10 then f + 3 else f - 9) ≤ 2 then 1 else 0) = k := by
    split <;> omega
  have month : (if (if f < 10 then f + 3 else f - 9) ≤ 2 then (if f < 10 then f + 3 else f - 9) + 9
      else (if f < 10 then f + 3 else f - 9) - 3) = f := by
    split <;> split <;> omega
  rw [daysOfDate, year, month, yearStart]
  omega

theorem daysOfDate_dateOfDays (date : dateOfDays days = (y, m, d)) :
    daysOfDate y m d = days ∧ 1 ≤ m ∧ m ≤ 12 ∧ 1 ≤ d ∧ d ≤ daysInMonth y m := by
  obtain ⟨era, day, place⟩ : ∃ era day, era = (days + 719468) / 146097 ∧
      day = (days + 719468) % 146097 := ⟨_, _, rfl, rfl⟩
  obtain ⟨k, year⟩ : ∃ k, k = commonDays day / 365 := ⟨_, rfl⟩
  obtain ⟨r, dayOfYear⟩ : ∃ r, r = day - (365 * k + k / 4 - k / 100) := ⟨_, rfl⟩
  obtain ⟨f, month⟩ : ∃ f, f = (5 * r + 2) / 153 := ⟨_, rfl⟩
  have first : 0 ≤ day := by omega
  have last : day < 146097 := by omega
  have bounds := yearStart_bounds first last
  rw [← year, yearStart_succ] at bounds
  have inside : 0 ≤ k ∧ k < 400 := by
    unfold commonDays at year
    omega
  have start : yearStart k = 365 * k + k / 4 - k / 100 := by
    unfold yearStart
    omega
  have range : 0 ≤ r ∧ r ≤ 365 := by
    split at bounds <;> omega
  have same : dateOfDays days = (k + era * 400 + (if (if f < 10 then f + 3 else f - 9) ≤ 2 then 1
      else 0), if f < 10 then f + 3 else f - 9, r - (153 * f + 2) / 5 + 1) := by
    simp only [dateOfDays, month, dayOfYear, year, commonDays, place.1, place.2]
  simp only [date, Prod.mk.injEq] at same
  obtain ⟨rfl, of_month, rfl⟩ := same
  rw [← of_month]
  have from_march : FromMarch (k + era * 400) f _ m := ⟨of_month, rfl, by omega, by omega⟩
  refine ⟨?_, ?_, ?_, by omega, ?_⟩
  · rw [daysOfDate_of_march from_march, yearStart_era]
    omega
  · split at of_month <;> omega
  · split at of_month <;> omega
  · rw [of_month]
    refine day_le_daysInMonth month range.1 range.2 fun last => ?_
    have february : ¬ f < 10 := by omega
    rw [if_neg february, if_pos (by omega), show k + era * 400 + 1 = k + 1 + era * 400 by omega,
      isLeap_era]
    split at bounds
    · assumption
    · omega

end Calendar

section Digits

/-- A fixed number of digits that stand for a number. -/
structure Spells (width : Nat) (n : Int) (ds : List Char) : Prop where
  length : ds.length = width
  digits : ∀ c ∈ ds, c.isDigit = true
  value : (Numeral.ofDigits ds : Int) = n

/-- A number within its width is padded to that many digits. -/
theorem spells_pad (natural : 0 ≤ n) (fits : n.natAbs < 10 ^ width) (some : 0 < width) :
    Spells width n (pad width n).toList := by
  have short : (Nat.toDigits 10 n.natAbs).length ≤ width :=
    (Nat.length_toDigits_le_iff (by decide) some).mpr fits
  have shape : (pad width n).toList =
      List.replicate (width - (Nat.toDigits 10 n.natAbs).length) '0' ++ Nat.toDigits 10 n.natAbs :=
    String.toList_ofList
  rw [shape]
  refine ⟨?_, ?_, ?_⟩
  · rw [List.length_append, List.length_replicate]
    omega
  · rw [List.forall_mem_append]
    exact ⟨fun c mem => List.eq_of_mem_replicate mem ▸ rfl,
      fun c mem => Numeral.isDigit_of_mem_toDigits mem⟩
  · rw [Numeral.ofDigits_zeros_append, Numeral.ofDigits_toDigits]
    omega

theorem takeDigits?_of_spells {ds : List Char} (h : Spells width n ds) (rest : List Char) :
    takeDigits? width (ds ++ rest) = some (n, rest) := by
  have all : ds.all Char.isDigit = true := List.all_eq_true.mpr h.digits
  simp [takeDigits?, ← h.length, ← h.value, all]

theorem takeDigits?_two (natural : 0 ≤ n) (fits : n < 100) (rest : List Char) :
    takeDigits? 2 ((pad 2 n).toList ++ rest) = some (n, rest) :=
  takeDigits?_of_spells (spells_pad natural (by omega) (by decide)) rest

theorem expect?_self (c : Char) (cs : List Char) : expect? c (c :: cs) = some cs := if_pos rfl

end Digits

def year (t : Moment) : Int := (dateOfDays (t.wall / 86400000000)).1

/-- Dates have years of four digits. -/
structure Datable (t : Moment) : Prop where
  earliest : 1 ≤ t.year
  latest : t.year ≤ 9999

theorem Datable.date? (h : t.Datable) (rest : List Char) :
    date? (t.dateText.toList ++ rest) = some (t.wall / 86400000000, rest) := by
  obtain ⟨⟨y, m, d⟩, date⟩ : ∃ date, dateOfDays (t.wall / 86400000000) = date := ⟨_, rfl⟩
  obtain ⟨back, january, december, first, last⟩ := daysOfDate_dateOfDays date
  have earliest := h.earliest
  have latest := h.latest
  simp only [year, date] at earliest latest
  have longest : daysInMonth y m ≤ 31 := by
    unfold daysInMonth
    split
    · split <;> decide
    · split <;> decide
  have years : Spells 4 y (pad 4 y).toList := spells_pad (by omega) (by omega) (by decide)
  have month := takeDigits?_two (n := m) (by omega) (by omega)
  have day := takeDigits?_two (n := d) (by omega) (by omega)
  have shape : t.dateText.toList ++ rest = (pad 4 y).toList ++ ('-' :: ((pad 2 m).toList ++
      ('-' :: ((pad 2 d).toList ++ rest)))) := by
    simp [dateText, date]
  rw [shape, Moment.date?, takeDigits?_of_spells years]
  simp only [Option.bind_eq_bind, Option.bind_some, expect?_self, month, day]
  rw [if_pos ⟨january, december, first, last⟩, back]

variable {c : Char}

theorem fraction?_pad (stop : c.isDigit = false) (point : c ≠ '.') (comma : c ≠ ',')
    (natural : 0 ≤ n) (fits : n < 1000000) (cs : List Char) :
    fraction? ((if n = 0 then "" else "." ++ pad 6 n).toList ++ c :: cs) = some (n, c :: cs) := by
  by_cases zero : n = 0
  · simp [zero, fraction?, point, comma]
  · have digits : Spells 6 n (pad 6 n).toList := spells_pad natural (by omega) (by decide)
    have shape : (if n = 0 then "" else "." ++ pad 6 n).toList ++ c :: cs =
        '.' :: ((pad 6 n).toList ++ c :: cs) := by
      simp [zero]
    have stops : Numeral.Stops (c :: cs) := by
      rintro _ ⟨⟩
      exact stop
    have filled : (pad 6 n).toList ≠ [] := fun none => by
      have length := digits.length
      rw [none] at length
      cases length
    have six : ((pad 6 n).toList ++ List.replicate 6 '0').take 6 = (pad 6 n).toList :=
      List.take_left' digits.length
    rw [shape, fraction?]
    simp only [Numeral.takeWhile_digits digits.digits stops,
      Numeral.dropWhile_digits digits.digits stops, List.isEmpty_iff, filled, six, digits.value]
    rfl

theorem time?_timeText (t : Moment) (stop : c.isDigit = false) (point : c ≠ '.') (comma : c ≠ ',')
    (cs : List Char) :
    time? (t.timeText.toList ++ c :: cs) = some (t.wall % 86400000000, c :: cs) := by
  obtain ⟨us, day⟩ : ∃ us, us = t.wall % 86400000000 := ⟨_, rfl⟩
  obtain ⟨h, hour⟩ : ∃ h, h = us / 1000000 / 3600 := ⟨_, rfl⟩
  obtain ⟨m, minute⟩ : ∃ m, m = us / 1000000 / 60 % 60 := ⟨_, rfl⟩
  obtain ⟨s, second⟩ : ∃ s, s = us / 1000000 % 60 := ⟨_, rfl⟩
  obtain ⟨f, part⟩ : ∃ f, f = us % 1000000 := ⟨_, rfl⟩
  have hours := takeDigits?_two (n := h) (by omega) (by omega)
  have minutes := takeDigits?_two (n := m) (by omega) (by omega)
  have seconds := takeDigits?_two (n := s) (by omega) (by omega)
  have fraction := fraction?_pad stop point comma (n := f) (by omega) (by omega) cs
  have shape : t.timeText.toList ++ c :: cs = (pad 2 h).toList ++ (':' :: ((pad 2 m).toList ++
      (':' :: ((pad 2 s).toList ++
        ((if f = 0 then "" else "." ++ pad 6 f).toList ++ c :: cs))))) := by
    simp [timeText, ← day, ← hour, ← minute, ← second, ← part]
  have total : (h * 3600 + m * 60 + s) * 1000000 + f = us := by omega
  rw [shape, time?, hours, ← day]
  simp only [Option.bind_eq_bind, Option.bind_some, expect?_self, minutes, seconds?, seconds,
    fraction]
  rw [if_pos (by omega), total]

theorem isDigit_of_mem_pad {c : Char} (h : c ∈ (pad width n).toList) : c.isDigit = true := by
  rw [pad, String.toList_ofList, List.mem_append] at h
  obtain zero | digit := h
  · exact List.eq_of_mem_replicate zero ▸ rfl
  · exact Numeral.isDigit_of_mem_toDigits digit

theorem isStandIn_of_isDigit {c : Char} (digit : c.isDigit = true) :
    Text.Surrogate.isStandIn c = false := by
  simp only [Char.isDigit, Bool.and_eq_true, decide_eq_true_eq, UInt32.le_iff_toNat_le] at digit
  have small : c.toNat ≤ 57 := digit.2
  have below : ¬ Text.Surrogate.base ≤ c.toNat := by
    unfold Text.Surrogate.base
    omega
  simp [Text.Surrogate.isStandIn, below]

theorem any_documentText (utc : t.offset = some 0) :
    t.documentText.toList.any Text.Surrogate.isStandIn = false := by
  have digits (width : Nat) (n : Int) : (pad width n).toList.any Text.Surrogate.isStandIn = false :=
    List.any_eq_false.mpr fun c mem =>
      Bool.eq_false_iff.mp (isStandIn_of_isDigit (isDigit_of_mem_pad mem))
  have fraction (n : Int) : (if n = 0 then "" else "." ++ pad 6 n).toList.any
      Text.Surrogate.isStandIn = false := by
    split
    · rfl
    · simp only [String.toList_append, List.any_append, digits]
      decide
  simp only [documentText, dateText, timeText, utc, String.toList_append,
    List.any_append, digits, fraction]
  decide

/-- A date on the clock of UTC. -/
structure InUtc (t : Moment) : Prop extends Datable t where
  utc : t.offset = some 0

theorem InUtc.ofText?_documentText (h : t.InUtc) : ofText? t.documentText = some t := by
  have shape : t.documentText.toList =
      t.dateText.toList ++ ('T' :: (t.timeText.toList ++ ['Z'])) := by
    simp [documentText, h.utc, documentOffset]
  have days : t.wall / 86400000000 * 86400000000 + t.wall % 86400000000 = t.wall := by omega
  have read : ofIso? t.documentText = some t := by
    rw [ofIso?, shape, h.toDatable.date?]
    simp [time?_timeText t (c := 'Z') rfl (by decide) (by decide), offset?, days, ← h.utc]
  rw [ofText?, read]
  rfl

end TriggerFlow.Moment
