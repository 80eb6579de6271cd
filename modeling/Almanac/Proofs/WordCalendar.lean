import Almanac.Proofs.CivilTime
import Almanac.Proofs.OrdinalDay
import Almanac.Proofs.Word

/-!
# Almanac.Proofs.WordCalendar

The calendar can be computed in words of a machine, without an overflow anywhere.

`InWords` repeats the conversions operation by operation with the words that they are done in.  A
sum, difference or product that leaves its word, a conversion to a smaller word that changes the
number, and a place that a table does not have all leave the computation without a result.
Quotients and remainders need no check, because all divisors are positive literals: `/` and `%` round
down, `tdiv` and `tmod` towards zero.

`InWords.calendar_never_overflows` says that there always is a result, and that it is the one of the
calendar in unbounded integers.
-/

namespace Almanac

namespace InWords

open Word

/-! ## from day numbers to dates -/

/-- The era of a day number, and the day within it. -/
def eraDay (n : Int) : Option (Int × Int) := do
  let shifted ← int64.add (n % daysPerEra) epochShift
  let era ← int64.add (n / daysPerEra) (shifted / daysPerEra)
  return (era, shifted % daysPerEra)

/-- The year of the era. -/
def yearOfEra (day : Int) : Option Int := do
  let corrected ← int64.add (← int64.sub day (day.tdiv 1460)) (day.tdiv 36524)
  return (← int64.sub corrected (day.tdiv 146096)).tdiv 365

/-- The first day of a year of the era. -/
def yearStart (year : Int) : Option Int := do
  int64.sub (← int64.add (← int64.mul 365 year) (year.tdiv 4)) (year.tdiv 100)

/-- The day of the year that begins in March. -/
def dayOfYear (day year : Int) : Option Int := do
  int64.sub day (← yearStart year)

/-- The month of a day in the year that begins in March. -/
def marchMonth (dayOfYear : Int) : Option Int := do
  return (← int64.add (← int64.mul 5 dayOfYear) 2).tdiv 153

/-- The first day of a month in the year that begins in March. -/
def marchMonthStart (march : Int) : Option Int := do
  return (← int64.add (← int64.mul 153 march) 2).tdiv 5

/-- The day of the month, from 1. -/
def dayOfMonth (dayOfYear march : Int) : Option Int := do
  int64.add (← int64.sub dayOfYear (← marchMonthStart march)) 1

/-- The month of the calendar of a month that is counted from March. -/
def calendarMonth (march : Int) : Option Int :=
  if march < 10 then int64.add march 3 else int64.sub march 9

/-- The year of the calendar in which a month of the era's year lies. -/
def calendarYear (year era month : Int) : Option Int := do
  int64.add (← int64.add year (← int64.mul era 400)) (if month ≤ 2 then 1 else 0)

/-- The date of a day of an era. -/
def toDate (era day : Int) : Option Date := do
  let year ← yearOfEra day
  let dayOfYear ← dayOfYear day year
  let march ← marchMonth dayOfYear
  let dayOfMonth ← dayOfMonth dayOfYear march
  let month ← calendarMonth march
  let year ← calendarYear year era month
  return ⟨year, (← nat8.hold month).toNat, (← nat8.hold dayOfMonth).toNat⟩

/-- The date of a day number. -/
def ofDayNumber (n : Int) : Option Date := do
  let (era, day) ← eraDay n
  toDate era day

theorem eraDay_eq {n : Int} (h : FitsInt64 n) :
    eraDay n = some ((EraDay.ofDayNumber n).era, ((EraDay.ofDayNumber n).day : Int)) := by
  have hword := int64_limits
  unfold FitsInt64 at h
  simp (disch := omega) only [eraDay, add_of_le, daysPerEra, epochShift, EraDay.ofDayNumber,
    Option.bind_eq_bind, Option.bind_some, Option.pure_def, Option.some.injEq, Prod.mk.injEq,
    true_and]
  omega

/-- Shifted before it is split, the last day number would overflow. -/
example : int64.add 9223372036854775807 epochShift = none := by decide

theorem yearStart_eq {y : Nat} (h : y < 400) : yearStart y = some (EraDay.yearStart y : Int) := by
  have hword := int64_limits
  simp (disch := omega) only [yearStart, Int.tdiv_eq_ediv_of_nonneg, add_of_le, sub_of_le,
    mul_of_le, Option.bind_eq_bind, Option.bind_some, EraDay.yearStart, Option.some.injEq]
  omega

theorem marchMonthStart_eq {m : Nat} (h : m < 12) :
    marchMonthStart m = some (EraDay.monthStart m : Int) := by
  have hword := int64_limits
  simp (disch := omega) only [marchMonthStart, Int.tdiv_eq_ediv_of_nonneg, add_of_le, mul_of_le,
    Option.bind_eq_bind, Option.bind_some, Option.pure_def, EraDay.monthStart, Option.some.injEq]
  omega

section

variable {e : EraDay}

/-- The numbers that are formed on the way to the date are small, and no difference is negative. -/
theorem bounds_of_day (h : e.day < 146097) :
    (e.yearOfEra < 400 ∧ EraDay.yearStart e.yearOfEra ≤ e.day) ∧
      (e.dayOfYear < 366 ∧ e.marchMonth < 12 ∧ EraDay.monthStart e.marchMonth ≤ e.dayOfYear) ∧
      e.month ≤ 12 ∧ e.dayOfMonth ≤ 31 := by
  obtain ⟨y, m, j, hl⟩ := EraDay.exists_located h
  have hlength := monthLength_le (y + 1) (EraDay.calendarMonth m)
  have hlast := daysInYear_le (y + 1)
  have hin := EraDay.monthStart_add_lt hl.month_lt hl.day_lt
  have hmonth : EraDay.calendarMonth m ≤ 12 := by
    have hm := hl.month_lt
    unfold EraDay.calendarMonth
    split <;> omega
  rw [hl.yearOfEra_eq, hl.dayOfYear_eq, hl.marchMonth_eq, hl.month_eq, hl.dayOfMonth_eq, hl.day_eq]
  obtain ⟨hy, hm, hj, -⟩ := hl
  omega

theorem yearOfEra_eq (h : e.day < 146097) : yearOfEra e.day = some (e.yearOfEra : Int) := by
  have hword := int64_limits
  simp (disch := omega) only [yearOfEra, Int.tdiv_eq_ediv_of_nonneg, add_of_le, sub_of_le,
    Option.bind_eq_bind, Option.bind_some, Option.pure_def, EraDay.yearOfEra, Option.some.injEq]
  omega

theorem dayOfYear_eq (h : e.day < 146097) :
    dayOfYear e.day e.yearOfEra = some (e.dayOfYear : Int) := by
  have hword := int64_limits
  obtain ⟨⟨hyear, hstart⟩, -⟩ := bounds_of_day h
  rw [dayOfYear, yearStart_eq hyear, Option.bind_eq_bind, Option.bind_some,
    sub_of_le (by omega) (by omega), EraDay.dayOfYear, Int.natCast_sub hstart]

theorem marchMonth_eq (h : e.day < 146097) :
    marchMonth e.dayOfYear = some (e.marchMonth : Int) := by
  have hword := int64_limits
  obtain ⟨-, ⟨hday, -⟩, -⟩ := bounds_of_day h
  simp (disch := omega) only [marchMonth, Int.tdiv_eq_ediv_of_nonneg, add_of_le, mul_of_le,
    Option.bind_eq_bind, Option.bind_some, Option.pure_def, EraDay.marchMonth, Option.some.injEq]
  omega

theorem dayOfMonth_eq (h : e.day < 146097) :
    dayOfMonth e.dayOfYear e.marchMonth = some (e.dayOfMonth : Int) := by
  have hword := int64_limits
  obtain ⟨-, ⟨hday, hmonth, hstart⟩, -⟩ := bounds_of_day h
  simp (disch := omega) only [dayOfMonth, marchMonthStart_eq hmonth, add_of_le, sub_of_le,
    Option.bind_eq_bind, Option.bind_some, EraDay.dayOfMonth, Option.some.injEq]
  omega

theorem calendarMonth_eq (h : e.day < 146097) :
    calendarMonth e.marchMonth = some (e.month : Int) := by
  have hword := int64_limits
  obtain ⟨-, ⟨-, hmonth, -⟩, -⟩ := bounds_of_day h
  unfold calendarMonth EraDay.month
  split
  · rw [add_of_le (by omega) (by omega), if_pos (by omega)]
    rfl
  · rw [sub_of_le (by omega) (by omega), if_neg (by omega), Int.natCast_sub (by omega)]
    rfl

/-- The years of the era lie far inside of the range. -/
theorem calendarYear_eq (h : e.day < 146097)
    (hera : -100000000000000 < e.era ∧ e.era < 100000000000000) :
    calendarYear e.yearOfEra e.era e.month = some e.toDate.year := by
  have hword := int64_limits
  obtain ⟨⟨hyear, -⟩, -⟩ := bounds_of_day h
  have hshift : (if (e.month : Int) ≤ 2 then (1 : Int) else 0) = if e.month ≤ 2 then 1 else 0 := by
    split <;> split <;> first | rfl | omega
  have hsmall : (0 : Int) ≤ (if e.month ≤ 2 then 1 else 0) ∧
      (if e.month ≤ 2 then 1 else 0) ≤ (1 : Int) := by
    split <;> decide
  rw [calendarYear, hshift]
  simp (disch := omega) only [add_of_le, mul_of_le, Option.bind_eq_bind, Option.bind_some,
    EraDay.toDate]

theorem toDate_eq (h : e.day < 146097)
    (hera : -100000000000000 < e.era ∧ e.era < 100000000000000) :
    toDate e.era e.day = some e.toDate := by
  have hbyte := nat8_limits
  obtain ⟨-, -, hmonth, hday⟩ := bounds_of_day h
  have hmonthByte : nat8.hold e.month = some (e.month : Int) := hold_of_le (by omega) (by omega)
  have hdayByte : nat8.hold e.dayOfMonth = some (e.dayOfMonth : Int) :=
    hold_of_le (by omega) (by omega)
  simp only [toDate, yearOfEra_eq h, dayOfYear_eq h, marchMonth_eq h, dayOfMonth_eq h,
    calendarMonth_eq h, calendarYear_eq h hera, hmonthByte, hdayByte, Option.bind_eq_bind,
    Option.bind_some, Option.pure_def, Int.toNat_natCast]
  rfl

end

theorem ofDayNumber_eq {n : Int} (h : FitsInt64 n) :
    ofDayNumber n = some (Date.ofDayNumber n) := by
  have hera : -100000000000000 < (EraDay.ofDayNumber n).era ∧
      (EraDay.ofDayNumber n).era < 100000000000000 := by
    simp only [FitsInt64, EraDay.ofDayNumber, daysPerEra, epochShift] at *
    omega
  have hdate := toDate_eq (EraDay.day_ofDayNumber_lt n) hera
  rw [ofDayNumber, eraDay_eq h]
  exact hdate

/-! ## from instants to civil times -/

/-- The days of the week in their order. -/
def week : List Weekday :=
  [.sunday, .monday, .tuesday, .wednesday, .thursday, .friday, .saturday]

/-- The weekday of a day number. -/
def weekday (n : Int) : Option Weekday := do
  let index ← place.hold ((← int64.add (n % 7) 4).tmod 7)
  week[index.toNat]?

/-- The breakdown of a day and a second of it. -/
def ofParts (n secondOfDay : Int) (nanosecond : Nat) : Option CivilTime := do
  let date ← ofDayNumber n
  let weekday ← weekday n
  let hour ← nat8.hold (secondOfDay.tdiv 3600)
  let minute ← nat8.hold ((secondOfDay.tdiv 60).tmod 60)
  let second ← nat8.hold (secondOfDay.tmod 60)
  return ⟨date, hour.toNat, minute.toNat, second.toNat, nanosecond, weekday⟩

/-- The breakdown of an instant in UTC. -/
def civil (t : Instant) : Option CivilTime := do
  let secondOfDay ← nat32.hold (t.secs % secsPerDay)
  ofParts (t.secs / secsPerDay) secondOfDay t.nanos

/-- The table of the week is `Weekday.ofIndex`. -/
theorem week_getElem? {i : Nat} (h : i < 7) : week[i]? = some (Weekday.ofIndex i) := by
  interval_cases i <;> rfl

theorem weekday_eq (n : Int) : weekday n = some (Weekday.ofDayNumber n) := by
  have hword := int64_limits
  have hplace := place_limits
  simp (disch := omega) only [weekday, add_of_le, hold_of_le, Int.tmod_eq_emod_of_nonneg,
    Option.bind_eq_bind, Option.bind_some]
  rw [week_getElem? (by omega)]
  rfl

/-- The time of day is formed of bytes. -/
theorem ofParts_eq {n : Int} (h : FitsInt64 n) {secondOfDay : Nat} (hsec : secondOfDay < 86400)
    (nanosecond : Nat) :
    ofParts n secondOfDay nanosecond =
      some ⟨Date.ofDayNumber n, secondOfDay / 3600, secondOfDay / 60 % 60, secondOfDay % 60,
        nanosecond, Weekday.ofDayNumber n⟩ := by
  have hbyte := nat8_limits
  simp (disch := omega) only [ofParts, ofDayNumber_eq h, weekday_eq, hold_of_le,
    Int.tdiv_eq_ediv_of_nonneg, Int.tmod_eq_emod_of_nonneg, Option.bind_eq_bind,
    Option.bind_some, Option.pure_def, Option.some.injEq, CivilTime.mk.injEq, true_and, and_true]
  omega

theorem civil_eq (t : Instant) : civil t = some t.civil := by
  have hword := nat32_limits
  have hfits := t.secs_fits
  have hday : FitsInt64 t.dayNumber := by
    simp only [FitsInt64, Instant.dayNumber, secsPerDay] at *
    omega
  have hsec : nat32.hold (t.secs % secsPerDay) = some (t.secondOfDay : Int) := by
    have hlt := t.secondOfDay_lt
    simp only [Instant.secondOfDay, secsPerDay] at *
    rw [hold_of_le (by omega) (by omega)]
    congr 1
    omega
  have hparts := ofParts_eq hday t.secondOfDay_lt t.nanos
  rw [civil, hsec]
  exact hparts

/-! ## dates that exist -/

/-- The lengths of the months of a common year; no month is at place 0. -/
def monthLengths : List Nat := [0, 31, 28, 31, 30, 31, 30, 31, 31, 30, 31, 30, 31]

/-- The number of days of a month. -/
def daysInMonth (year : Int) (month : Nat) : Option (Except CalendarError Nat) := do
  if ¬ (1 ≤ month ∧ month ≤ 12) then return .error (.noSuchMonth month)
  else if month = 2 ∧ isLeapYear year then return .ok 29
  else return .ok (← monthLengths[month]?)

/-- Refuses a date that does not exist. -/
def check (d : Date) : Option (Except CalendarError Unit) := do
  match ← daysInMonth d.year d.month with
  | .error e => return .error e
  | .ok last =>
    if 1 ≤ d.day ∧ d.day ≤ last then return .ok ()
    else return .error (.noSuchDay d.day d.month d.year last)

theorem daysInMonth_eq (year : Int) (month : Nat) :
    daysInMonth year month = some (Almanac.daysInMonth year month) := by
  unfold daysInMonth Almanac.daysInMonth
  by_cases hmonth : 1 ≤ month ∧ month ≤ 12
  · rw [if_neg (not_not.2 hmonth), if_pos hmonth]
    obtain ⟨h1, h12⟩ := hmonth
    by_cases hleap : isLeapYear year <;> interval_cases month <;>
      simp [monthLength, monthLengths, hleap]
  · rw [if_pos hmonth, if_neg hmonth]
    rfl

theorem check_eq (d : Date) : check d = some d.check := by
  unfold check Date.check
  rw [daysInMonth_eq]
  cases Almanac.daysInMonth d.year d.month with
  | error e => rfl
  | ok last =>
    simp only [Option.bind_eq_bind, Option.bind_some, Outcome.ok_bind]
    split <;> rfl

/-! ## from dates to day numbers -/

/-- The month of a date, counted from March. -/
def marchMonthOfDate (month : Int) : Option Int :=
  if 2 < month then int64.sub month 3 else int64.add month 9

/-- The year that began in March and holds the date.  The year before the first one in range is
taken for that one. -/
def marchYear (d : Date) : Int := if d.month ≤ 2 then int64.clampedSub d.year 1 else d.year

/-- The era of a date that exists, and the day within it. -/
def eraDayOfDate (d : Date) : Option (Int × Int) := do
  let march ← marchMonthOfDate d.month
  let dayOfYear ← int64.sub (← int64.add (← marchMonthStart march) d.day) 1
  let day ← int64.add (← yearStart (marchYear d % 400)) dayOfYear
  return (marchYear d / 400, day)

/-- A number of days behind the beginning of an era.  Here it is no fault to leave the range. -/
def behindEra (era days : Int) : Option Int := do
  int64.add (← int64.mul era daysPerEra) days

/-- The day number of a date. -/
def dayNumber? (d : Date) : Option (Except CalendarError Int) := do
  match ← check d with
  | .error e => return .error e
  | .ok () =>
    let (era, day) ← eraDayOfDate d
    let days ← int64.sub day epochShift
    match behindEra era days with
    | some n => return .ok n
    | none => return .error (.outOfRange s!"day number of {d.text}")

theorem marchMonthOfDate_eq {d : Date} (h : d.Valid) :
    marchMonthOfDate d.month = some (d.marchMonth : Int) := by
  have hword := int64_limits
  obtain ⟨h1, h12, -, -⟩ := h
  unfold marchMonthOfDate Date.marchMonth
  split
  · rw [sub_of_le (by omega) (by omega), if_pos (by omega), Int.natCast_sub (by omega)]
    rfl
  · rw [add_of_le (by omega) (by omega), if_neg (by omega)]
    rfl

/-- Only January and February of the first year in range have a year in March that is not the
computed one. -/
theorem marchYear_eq {d : Date} (h : FitsInt64 d.year) :
    marchYear d = d.marchYear ∨
      d.marchYear = -9223372036854775809 ∧ marchYear d = -9223372036854775808 := by
  simp only [FitsInt64, marchYear, clampedSub, int64, Date.marchYear] at *
  split <;> omega

/-- The day of a date in the era, for the year that is computed. -/
def dayOfEra (d : Date) : Nat :=
  EraDay.yearStart (marchYear d % 400).toNat + (EraDay.monthStart d.marchMonth + d.day - 1)

theorem dayOfEra_le {d : Date} (h : d.Valid) : dayOfEra d ≤ 147000 := by
  have hmonth := Date.marchMonth_lt h
  have hday := h.2.2.2
  have hlength := monthLength_le d.year d.month
  simp only [dayOfEra, EraDay.yearStart, EraDay.monthStart]
  omega

theorem eraDayOfDate_eq {d : Date} (h : d.Valid) :
    eraDayOfDate d = some (marchYear d / 400, (dayOfEra d : Int)) := by
  have hword := int64_limits
  have hmonth := Date.marchMonth_lt h
  have hle := dayOfEra_le h
  obtain ⟨-, -, hday, hlast⟩ := id h
  have hlength := monthLength_le d.year d.month
  have hyear : yearStart (marchYear d % 400) =
      some (EraDay.yearStart (marchYear d % 400).toNat : Int) := by
    rw [← yearStart_eq (by omega), Int.toNat_of_nonneg (by omega)]
  have hstart : EraDay.monthStart d.marchMonth ≤ 337 := by
    unfold EraDay.monthStart
    omega
  unfold dayOfEra at *
  simp (disch := omega) only [eraDayOfDate, marchMonthOfDate_eq h, marchMonthStart_eq hmonth, hyear,
    add_of_le, sub_of_le, Option.bind_eq_bind, Option.bind_some, Option.pure_def, Option.some.injEq,
    Prod.mk.injEq, true_and]
  omega

theorem behindEra_eq (era days : Int) :
    behindEra era days =
      if FitsInt64 (era * daysPerEra) ∧ FitsInt64 (era * daysPerEra + days) then
        some (era * daysPerEra + days) else none := by
  rw [behindEra, mul, hold_int64]
  by_cases hera : FitsInt64 (era * daysPerEra)
  · rw [if_pos hera, Option.bind_eq_bind, Option.bind_some, add, hold_int64]
    simp only [hera, true_and]
  · rw [if_neg hera, if_neg fun h => hera h.1]
    rfl

/-- Where the computed year is not the one in March, the days of the eras leave the range. -/
theorem behindEra_ofDate {d : Date} (hyear : FitsInt64 d.year) :
    behindEra (marchYear d / 400) (dayOfEra d - epochShift) =
      if FitsInt64 (EraDay.ofDate d).wholeEras ∧ FitsInt64 d.dayNumber then some d.dayNumber
      else none := by
  rw [behindEra_eq]
  obtain heq | ⟨hfirst, hcomputed⟩ := marchYear_eq hyear
  · unfold dayOfEra
    rw [heq]
    rfl
  · have hera : (EraDay.ofDate d).era = d.marchYear / 400 := rfl
    have hout : ¬ FitsInt64 (EraDay.ofDate d).wholeEras := by
      rw [EraDay.wholeEras, hera, hfirst]
      decide
    have hout' : ¬ FitsInt64 (-9223372036854775808 / 400 * daysPerEra) := by decide
    rw [hcomputed, if_neg fun h => hout' h.1, if_neg fun h => hout h.1]

theorem dayNumber?_eq {d : Date} (hyear : FitsInt64 d.year) :
    dayNumber? d = some d.dayNumber? := by
  cases hcheck : d.check with
  | error e =>
    rw [dayNumber?, check_eq, hcheck, Date.dayNumber?_of_check_error hcheck]
    rfl
  | ok =>
    have h : d.Valid := Date.check_eq_ok_iff.1 hcheck
    have hword := int64_limits
    have hle := dayOfEra_le h
    have hdays : int64.sub (dayOfEra d) epochShift = some (dayOfEra d - epochShift : Int) :=
      sub_of_le (by unfold epochShift; omega) (by unfold epochShift; omega)
    rw [dayNumber?, check_eq, hcheck, Date.dayNumber?_of_valid h]
    simp only [Option.bind_eq_bind, Option.bind_some, eraDayOfDate_eq h, hdays,
      behindEra_ofDate hyear]
    by_cases hfits : FitsInt64 (EraDay.ofDate d).wholeEras ∧ FitsInt64 d.dayNumber
    · simp only [if_pos hfits, Option.pure_def]
    · simp only [if_neg hfits, Option.pure_def]

/-! ## ordinal days -/

/-- The ordinal days of the first of each month in a common year; no month is at place 0. -/
def commonMonthStarts : List Int := [0, 1, 32, 60, 91, 121, 152, 182, 213, 244, 274, 305, 335]

/-- The ordinal day of a date that is known to exist. -/
def yearDayOfValidDate (d : Date) : Option YearDay := do
  let start ← commonMonthStarts[d.month]?
  let before ← nat16.sub (← nat16.add start d.day) 1
  let ordinal ← nat16.add before (YearDay.leapShift d.year d.month)
  return ⟨ordinal.toNat⟩

/-- The ordinal day of a date. -/
def yearDay (d : Date) : Option (Except CalendarError YearDay) := do
  match ← check d with
  | .error e => return .error e
  | .ok () => return .ok (← yearDayOfValidDate d)

/-- The ordinal day of the first of a month. -/
def monthStart (year : Int) (month : Nat) : Option Int := do
  nat16.add (← commonMonthStarts[month]?) (YearDay.leapShift year month)

/-- Goes down from a month to the last one that does not start after the ordinal day, in at most so
many rounds. -/
def monthFrom (year : Int) (ordinal : Nat) : Nat → Nat → Option Nat
  | 0, _ => none
  | rounds + 1, month => do
    if 1 < month then
      if (← monthStart year month) ≤ ordinal then return month
      else monthFrom year ordinal rounds (← place.sub month 1).toNat
    else return month

/-- Month and day of an ordinal day in a year. -/
def monthDay (y : YearDay) (year : Int) : Option (Except CalendarError (Nat × Nat)) := do
  match YearDay.inYear year y.ordinal with
  | .error e => return .error e
  | .ok y =>
    let month ← monthFrom year y.ordinal 12 12
    let day ← nat16.add (← nat16.sub y.ordinal (← monthStart year month)) 1
    return .ok ((← nat8.hold month).toNat, (← nat8.hold day).toNat)

theorem commonMonthStarts_getElem? {month : Nat} (h : month ≤ 12) :
    commonMonthStarts[month]? = some (YearDay.commonMonthStart month : Int) := by
  interval_cases month <;> rfl

theorem monthStart_eq {month : Nat} (h : month ≤ 12) (year : Int) :
    monthStart year month = some (YearDay.monthStart year month : Int) := by
  have hword := nat16_limits
  have hstart : YearDay.commonMonthStart month ≤ 335 := by
    interval_cases month <;> decide
  have hshift : YearDay.leapShift year month ≤ 1 := by
    unfold YearDay.leapShift
    split <;> decide
  rw [monthStart, commonMonthStarts_getElem? h, Option.bind_eq_bind, Option.bind_some,
    add_of_le (by omega) (by omega)]
  rfl

theorem yearDayOfValidDate_eq {d : Date} (h : d.Valid) :
    yearDayOfValidDate d = some (YearDay.ofValidDate d) := by
  have hword := nat16_limits
  have hordinal := YearDay.ordinal_ofValidDate h
  have hlast := (YearDay.ordinal_bounds h).2
  have hle := daysInYear_le d.year
  obtain ⟨-, h12, hday, -⟩ := id h
  simp only [YearDay.monthStart] at hordinal
  simp (disch := omega) only [yearDayOfValidDate, commonMonthStarts_getElem? h12, add_of_le,
    sub_of_le, Option.bind_eq_bind, Option.bind_some, Option.pure_def, Option.some.injEq]
  rw [YearDay.ofValidDate, YearDay.mk.injEq]
  omega

theorem yearDay_eq (d : Date) : yearDay d = some (YearDay.ofDate d) := by
  cases hcheck : d.check with
  | error e =>
    rw [yearDay, check_eq, hcheck, YearDay.ofDate_of_check_error hcheck]
    rfl
  | ok =>
    have h : d.Valid := Date.check_eq_ok_iff.1 hcheck
    rw [yearDay, check_eq, hcheck, YearDay.ofDate_of_valid h]
    simp only [Option.bind_eq_bind, Option.bind_some, yearDayOfValidDate_eq h, Option.pure_def]

/-- A round for each month is enough, because a round that does not end the search goes down. -/
theorem monthFrom_eq (year : Int) (ordinal : Nat) {rounds month : Nat} (h1 : 1 ≤ month)
    (h : month ≤ rounds) (h12 : month ≤ 12) :
    monthFrom year ordinal rounds month = some (YearDay.monthUpTo year ordinal month) := by
  induction rounds generalizing month with
  | zero => omega
  | succ rounds ih =>
    have hplace := place_limits
    match month with
    | 1 => rfl
    | before + 2 =>
      have hstep : place.sub (before + 2 : Nat) 1 = some ((before + 1 : Nat) : Int) := by
        rw [sub_of_le (by omega) (by omega)]
        congr 1
        omega
      rw [monthFrom, if_pos (by omega), monthStart_eq h12, YearDay.monthUpTo]
      · simp only [Option.bind_eq_bind, Option.bind_some, Option.pure_def, hstep, Int.ofNat_le,
          Int.toNat_natCast, ih (Nat.le_add_left 1 before) (by omega) (by omega)]
        split <;> rfl
      · exact Nat.succ_ne_zero before

theorem monthDay_eq (y : YearDay) (year : Int) : monthDay y year = some (y.monthDay year) := by
  by_cases h : 1 ≤ y.ordinal ∧ y.ordinal ≤ daysInYear year
  · -- The difference is small, because the ordinal day is that of a date.
    obtain ⟨d, hvalid, rfl, hd⟩ := Date.exists_ofValidDate h
    obtain rfl : y = YearDay.ofValidDate d := hd.symm
    have hword := nat16_limits
    have hbyte := nat8_limits
    have hordinal := YearDay.ordinal_ofValidDate hvalid
    have hle := daysInYear_le d.year
    obtain ⟨h1, h12, hday, hlast⟩ := id hvalid
    have hlength := monthLength_le d.year d.month
    have hmonth : monthFrom d.year (YearDay.ofValidDate d).ordinal 12 12 = some d.month := by
      rw [monthFrom_eq _ _ (by decide) (by decide) (by decide),
        YearDay.monthUpTo_ofValidDate hvalid]
    rw [YearDay.monthDay_ofValidDate hvalid, monthDay, YearDay.inYear_of_le h]
    simp (disch := omega) only [hmonth, monthStart_eq h12, add_of_le, sub_of_le, hold_of_le,
      Option.bind_eq_bind, Option.bind_some, Option.pure_def, Option.some.injEq, Except.ok.injEq,
      Prod.mk.injEq]
    omega
  · rw [monthDay, YearDay.monthDay_eq_error_iff.2 ⟨h, rfl⟩, YearDay.inYear, if_neg h]
    rfl

/-! ## the calendar -/

/-- The calendar can be computed in words, without an overflow, a conversion that changes a number
or a place outside of a table:

* date and weekday of each day number in range;
* the breakdown of each instant, and its ordinal day;
* the day number of each date whose year is in range, or the error why there is none;
* the ordinal day of each date, and month and day of each ordinal day in a year, or the error why
  there is none. -/
theorem calendar_never_overflows :
    (∀ n, FitsInt64 n → ofDayNumber n = some (Date.ofDayNumber n)) ∧
    (∀ n, weekday n = some (Weekday.ofDayNumber n)) ∧
    (∀ t : Instant, civil t = some t.civil ∧ yearDayOfValidDate t.civil.date = some t.yearDay) ∧
    (∀ d : Date, FitsInt64 d.year → dayNumber? d = some d.dayNumber?) ∧
    (∀ d : Date, yearDay d = some (YearDay.ofDate d)) ∧
    ∀ (y : YearDay) (year : Int), monthDay y year = some (y.monthDay year) :=
  ⟨fun _ h => ofDayNumber_eq h, weekday_eq,
    fun t => ⟨civil_eq t, yearDayOfValidDate_eq t.valid_civil⟩, fun _ h => dayNumber?_eq h,
    yearDay_eq, monthDay_eq⟩

/-- The first and the last day number, and the first day of the first year, whose year in March is
out of range. -/
theorem calendar_never_overflows_at_ends :
    FitsInt64 9223372036854775807 ∧
      ofDayNumber 9223372036854775807 = some ⟨25252734927768524, 7, 27⟩ ∧
      FitsInt64 (-9223372036854775808) ∧
      ofDayNumber (-9223372036854775808) = some ⟨-25252734927764585, 6, 7⟩ ∧
      dayNumber? ⟨-9223372036854775808, 1, 1⟩ =
        some (.error (.outOfRange "day number of -9223372036854775808-01-01")) := by
  obtain ⟨hdate, -, -, hnumber, -⟩ := calendar_never_overflows
  have hlast : FitsInt64 9223372036854775807 := by decide
  have hfirst : FitsInt64 (-9223372036854775808) := by decide
  refine ⟨hlast, ?_, hfirst, ?_, ?_⟩
  · rw [hdate _ hlast]
    decide +kernel
  · rw [hdate _ hfirst]
    decide +kernel
  · rw [hnumber _ hfirst]
    decide +kernel

end InWords

end Almanac
