import Almanac.Proofs.CivilTime

/-!
# Almanac.Proofs.WeekdayFormula

The weekday of a date, without its day number.

A weekday is taken from the day number modulo 7, and no date is looked at.  The rule for reckoning
it from a date knows of no day numbers: a common year moves the weekday on by one day and a leap day
by one more, each month has a shift of its own, and January and February belong to the year before
(`Date.weekdayIndex`).

Both count from the same Sunday.  Modulo 7 the 365 days of each year leave one
(`Date.marchDays_emod`), and the beginnings of the months leave their shifts
(`Date.monthStart_emod`), so the closed form of the day number turns into the rule
(`Date.dayNumber_emod`).
-/

namespace Almanac

/-! ## positions in the week -/

namespace Weekday

/-- A position in the week is that of its weekday. -/
theorem index_ofIndex {i : Nat} (h : i < 7) : (ofIndex i).index = i := by
  interval_cases i <;> rfl

/-- Day 0 is at position 4, and the positions go round. -/
theorem index_ofDayNumber (n : Int) : ((ofDayNumber n).index : Int) = (n + 4) % 7 := by
  have hlt : ((n % 7 + 4) % 7).toNat < 7 := by omega
  rw [ofDayNumber, index_ofIndex hlt]
  omega

end Weekday

/-! ## the rule -/

namespace Date

/-- The shift of the weekday by a month, zero for a number that is no month. -/
def weekdayShift : Nat → Int
  | 1 => 0
  | 2 => 3
  | 3 => 2
  | 4 => 5
  | 5 => 0
  | 6 => 3
  | 7 => 5
  | 8 => 1
  | 9 => 4
  | 10 => 6
  | 11 => 2
  | 12 => 4
  | _ => 0

/-- The position of a date in the week, with Sunday at 0. -/
def weekdayIndex (d : Date) : Int :=
  let year := if d.month ≤ 2 then d.year - 1 else d.year
  (year + year / 4 - year / 100 + year / 400 + weekdayShift d.month + d.day) % 7

/-! ## its agreement with day numbers -/

/-- A year of 365 days has a day more than 52 weeks. -/
theorem marchDays_emod (year : Int) :
    marchDays year % 7 = (year + year / 4 - year / 100 + year / 400) % 7 := by
  unfold marchDays
  omega

/-- The months begin on the weekdays of their shifts, two days after that of 1 March. -/
theorem monthStart_emod {d : Date} (h : d.Valid) :
    ((EraDay.monthStart d.marchMonth : Int) + 2) % 7 = weekdayShift d.month % 7 := by
  obtain ⟨year, month, day⟩ := d
  obtain ⟨h1, h12, -, -⟩ := h
  simp only at h1 h12
  interval_cases month <;> simp [marchMonth, EraDay.monthStart, weekdayShift]

/-- Modulo 7 the closed form of the day number is the rule. -/
theorem dayNumber_emod {d : Date} (h : d.Valid) : (d.dayNumber + 4) % 7 = d.weekdayIndex := by
  have hyear := marchDays_emod d.marchYear
  have hmonth := monthStart_emod h
  have hrule : d.weekdayIndex = (d.marchYear + d.marchYear / 4 - d.marchYear / 100 +
      d.marchYear / 400 + weekdayShift d.month + d.day) % 7 := rfl
  rw [dayNumber_eq h, hrule]
  omega

/-- The 1st of January 1900 was a Monday, by the day number and by the rule. -/
example : (dayNumber ⟨1900, 1, 1⟩ + 4) % 7 = 1 ∧ weekdayIndex ⟨1900, 1, 1⟩ = 1 := by
  decide +kernel

end Date

namespace Weekday

/-- The weekday of a day number is the one that the rule gives for its date, and so is that of an
instant for the date of the instant. -/
theorem index_fits_date :
    (∀ n : Int, ((ofDayNumber n).index : Int) = (Date.ofDayNumber n).weekdayIndex) ∧
      ∀ t : Instant, (t.civil.weekday.index : Int) = t.civil.date.weekdayIndex := by
  have hnumber (n : Int) : ((ofDayNumber n).index : Int) = (Date.ofDayNumber n).weekdayIndex := by
    rw [index_ofDayNumber, ← Date.dayNumber_emod (Date.valid_ofDayNumber n),
      Date.dayNumber_ofDayNumber]
  exact ⟨hnumber, fun t => hnumber t.dayNumber⟩

end Weekday

end Almanac
