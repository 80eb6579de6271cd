import Almanac.Calendar.Error

/-!
# Almanac.Calendar.Date

Dates of the proleptic Gregorian calendar and their day numbers, counted from 1970-01-01.

The conversion works in *eras* of 400 years, which all have 146097 days.  An era begins on
1 March of a year that is divisible by 400, so that a leap day is the last day of its year and
the lengths of the months before it follow the line `(153 m + 2) / 5`.

* `Date.ofDayNumber` goes from a day number through the day of the era to the date;
* `Date.dayNumber` is its inverse, in unbounded integers;
* `Date.dayNumber?` checks the date first and stays in 64 bits: it forms the days of the whole
  eras before it adds the rest, and both have to fit.
-/

namespace Almanac

/-! ## the calendar's rules -/

/-- A year is a leap year when it is divisible by 4 and not by 100, or divisible by 400. -/
def isLeapYear (year : Int) : Bool := (year % 4 == 0 && year % 100 != 0) || year % 400 == 0

/-- The number of days of a year. -/
def daysInYear (year : Int) : Nat := if isLeapYear year then 366 else 365

/-- The number of days of a month, zero for a number that is no month. -/
def monthLength (year : Int) (month : Nat) : Nat :=
  match month with
  | 2 => if isLeapYear year then 29 else 28
  | 4 | 6 | 9 | 11 => 30
  | 1 | 3 | 5 | 7 | 8 | 10 | 12 => 31
  | _ => 0

/-- The number of days of a month; a number outside of 1 to 12 is refused. -/
def daysInMonth (year : Int) (month : Nat) : Except CalendarError Nat :=
  if 1 ≤ month ∧ month ≤ 12 then .ok (monthLength year month) else .error (.noSuchMonth month)

/-- A year, month and day, which need not exist. -/
structure Date where
  year : Int
  month : Nat
  day : Nat
deriving DecidableEq, Repr

namespace Date

/-- The date exists: its month is one of twelve and its day one of the month's. -/
def Valid (d : Date) : Prop :=
  1 ≤ d.month ∧ d.month ≤ 12 ∧ 1 ≤ d.day ∧ d.day ≤ monthLength d.year d.month

instance (d : Date) : Decidable d.Valid := inferInstanceAs (Decidable (_ ∧ _ ∧ _ ∧ _))

/-- Refuses a date that does not exist, for its month before its day. -/
def check (d : Date) : Except CalendarError Unit := do
  let last ← daysInMonth d.year d.month
  if 1 ≤ d.day ∧ d.day ≤ last then pure () else throw (.noSuchDay d.day d.month d.year last)

/-- Exactly the dates that exist pass. -/
theorem check_eq_ok_iff {d : Date} : d.check = .ok () ↔ d.Valid := by
  unfold check daysInMonth Valid
  by_cases hm : 1 ≤ d.month ∧ d.month ≤ 12
  · by_cases hd : 1 ≤ d.day ∧ d.day ≤ monthLength d.year d.month <;>
      simp [hm, hd, bind, Except.bind, pure, Except.pure, throw, throwThe, MonadExceptOf.throw]
  · simp only [hm, if_false, bind, Except.bind]
    grind

/-- The date as text, with two digits for month and day. -/
def text (d : Date) : String :=
  CalendarError.yearMonth d.year d.month ++ "-" ++ String.ofList (Decimal.padded 2 d.day)

end Date

/-! ## eras -/

/-- Days of 400 years. -/
def daysPerEra : Int := 146097

/-- Days from 0000-03-01, where era 0 begins, to 1970-01-01. -/
def epochShift : Int := 719468

/-- A day within its era, counted from 0 on 1 March of the era's first year. -/
structure EraDay where
  era : Int
  day : Nat
deriving DecidableEq, Repr

namespace EraDay

/-- The day of an era of a day number.  The number is split before the shift is added, so that no
intermediate result is larger than the number itself or a few eras. -/
def ofDayNumber (n : Int) : EraDay :=
  let shifted := n % daysPerEra + epochShift
  ⟨n / daysPerEra + shifted / daysPerEra, (shifted % daysPerEra).toNat⟩

/-- The year of the era, 0 to 399.  The three corrections take out the leap days of the finished
4-year, 100-year and 400-year periods. -/
def yearOfEra (e : EraDay) : Nat :=
  (e.day - e.day / 1460 + e.day / 36524 - e.day / 146096) / 365

/-- The first day of a year of the era. -/
def yearStart (yearOfEra : Nat) : Nat := yearOfEra * 365 + yearOfEra / 4 - yearOfEra / 100

/-- The day of the year that begins in March, 0 to 365. -/
def dayOfYear (e : EraDay) : Nat := e.day - yearStart e.yearOfEra

/-- The first day of a month in the year that begins in March; March is month 0. -/
def monthStart (marchMonth : Nat) : Nat := (153 * marchMonth + 2) / 5

/-- The month in the year that begins in March, 0 to 11. -/
def marchMonth (e : EraDay) : Nat := (5 * e.dayOfYear + 2) / 153

/-- The month of the calendar, 1 to 12. -/
def month (e : EraDay) : Nat := if e.marchMonth < 10 then e.marchMonth + 3 else e.marchMonth - 9

/-- The day of the month, from 1. -/
def dayOfMonth (e : EraDay) : Nat := e.dayOfYear - monthStart e.marchMonth + 1

/-- The date of a day of an era.  January and February end the year that began in March. -/
def toDate (e : EraDay) : Date :=
  ⟨e.yearOfEra + e.era * 400 + (if e.month ≤ 2 then 1 else 0), e.month, e.dayOfMonth⟩

/-- The day of an era of a date. -/
def ofDate (d : Date) : EraDay :=
  let year := if d.month ≤ 2 then d.year - 1 else d.year
  let yearOfEra := (year % 400).toNat
  let marchMonth := if 2 < d.month then d.month - 3 else d.month + 9
  ⟨year / 400, yearStart yearOfEra + (monthStart marchMonth + d.day - 1)⟩

/-- The days of the eras before this one, counted from the start of era 0. -/
def wholeEras (e : EraDay) : Int := e.era * daysPerEra

/-- The day number of a day of an era. -/
def dayNumber (e : EraDay) : Int := e.wholeEras + (e.day - epochShift)

end EraDay

/-! ## day numbers -/

namespace Date

/-- The date of a day number. -/
def ofDayNumber (n : Int) : Date := (EraDay.ofDayNumber n).toDate

/-- The day number of a date, in unbounded integers. -/
def dayNumber (d : Date) : Int := (EraDay.ofDate d).dayNumber

/-- The day number of a date in 64 bits.  The date must exist, and neither the days of its whole
eras nor the day number may leave the range. -/
def dayNumber? (d : Date) : Except CalendarError Int := do
  d.check
  let e := EraDay.ofDate d
  if FitsInt64 e.wholeEras ∧ FitsInt64 e.dayNumber then pure e.dayNumber
  else throw (.outOfRange s!"day number of {d.text}")

end Date

end Almanac
