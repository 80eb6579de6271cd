import Almanac.Calendar.Date

/-!
# Almanac.Calendar.YearDay

Ordinal days: the position of a date in its year, from 1 for 1 January to 365 or 366.

* `YearDay.ofDate` adds the day to the start of its month, one later from March on in a leap year;
* `YearDay.monthDay` finds the last month that does not start after the ordinal day.
-/

namespace Almanac

/-- The position of a day in its year.  The year is not kept, so 366 may meet a common year. -/
structure YearDay where
  ordinal : Nat
deriving DecidableEq, Repr

namespace YearDay

/-- The ordinal day of the first of a month in a common year, zero for a number that is no month. -/
def commonMonthStart : Nat → Nat
  | 1 => 1
  | 2 => 32
  | 3 => 60
  | 4 => 91
  | 5 => 121
  | 6 => 152
  | 7 => 182
  | 8 => 213
  | 9 => 244
  | 10 => 274
  | 11 => 305
  | 12 => 335
  | _ => 0

/-- The shift of the months after February by a leap day. -/
def leapShift (year : Int) (month : Nat) : Nat := if 2 < month ∧ isLeapYear year then 1 else 0

/-- The ordinal day of the first of a month. -/
def monthStart (year : Int) (month : Nat) : Nat := commonMonthStart month + leapShift year month

/-- An ordinal day that the year has. -/
def inYear (year : Int) (ordinal : Nat) : Except CalendarError YearDay :=
  if 1 ≤ ordinal ∧ ordinal ≤ daysInYear year then .ok ⟨ordinal⟩
  else .error (.noSuchYearDay ordinal year (daysInYear year))

/-- The ordinal day of a date that is known to exist. -/
def ofValidDate (d : Date) : YearDay :=
  ⟨commonMonthStart d.month + d.day - 1 + leapShift d.year d.month⟩

/-- The ordinal day of a date; a date that does not exist is refused. -/
def ofDate (d : Date) : Except CalendarError YearDay := do
  d.check
  pure (ofValidDate d)

/-- The last of the months 2 to `month` that does not start after the ordinal day, else 1. -/
def monthUpTo (year : Int) (ordinal : Nat) : Nat → Nat
  | 0 => 1
  | 1 => 1
  | month + 1 =>
    if monthStart year (month + 1) ≤ ordinal then month + 1 else monthUpTo year ordinal month

/-- Month and day of an ordinal day in a year, which must have it. -/
def monthDay (y : YearDay) (year : Int) : Except CalendarError (Nat × Nat) := do
  let y ← inYear year y.ordinal
  let month := monthUpTo year y.ordinal 12
  pure (month, y.ordinal - monthStart year month + 1)

end YearDay

end Almanac
