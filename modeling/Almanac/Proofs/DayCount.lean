import Almanac.Proofs.DayNumber
import Mathlib.Logic.Function.Iterate

/-!
# Almanac.Proofs.DayCount

Counting days on the calendar, and which of the counts `Date.dayNumber?` can store.

A date is counted by going from date to date until 1970-01-01 is met (`Date.DaysSinceEpoch`); no
formula is part of it.  `Date.daysSinceEpoch_iff` says that the day number is this count.

The range of 64 bits is not used up: the days of the whole eras are formed first, and those of the
era that is entered last do not fit, so every day of it is refused.  The day numbers end with the
last day of the era before (`Date.dayNumber?_eq`), 629827 days before the end of the range.
-/

namespace Almanac.Date

/-! ## counting -/

/-- The date lies `n` days after 1970-01-01, counted from date to date; a negative count leads from
the date up to 1970-01-01. -/
def DaysSinceEpoch (d : Date) (n : Int) : Prop :=
  next^[n.toNat] ⟨1970, 1, 1⟩ = next^[(-n).toNat] d

instance (d : Date) (n : Int) : Decidable (d.DaysSinceEpoch n) :=
  inferInstanceAs (Decidable (_ = _))

/-- Going on by a number of dates raises the day number by it. -/
theorem dayNumber_iterate_next {d : Date} (h : d.Valid) (k : Nat) :
    (next^[k] d).Valid ∧ (next^[k] d).dayNumber = d.dayNumber + k := by
  induction k with
  | zero => exact ⟨h, (Int.add_zero _).symm⟩
  | succ k ih =>
      obtain ⟨hvalid, hnumber⟩ := ih
      rw [Function.iterate_succ_apply', dayNumber_next hvalid, hnumber]
      exact ⟨valid_next hvalid, by omega⟩

/-- Dates with the same day number are the same. -/
theorem dayNumber_inj {d e : Date} (hd : d.Valid) (he : e.Valid) :
    d.dayNumber = e.dayNumber ↔ d = e := by
  constructor
  · intro h
    rw [← ofDayNumber_dayNumber hd, h, ofDayNumber_dayNumber he]
  · intro h
    rw [h]

/-- The day number of a date is the number of days that are counted. -/
theorem daysSinceEpoch_iff {d : Date} (h : d.Valid) {n : Int} :
    d.DaysSinceEpoch n ↔ d.dayNumber = n := by
  have hepoch : Valid ⟨1970, 1, 1⟩ := by decide
  have hzero : dayNumber ⟨1970, 1, 1⟩ = 0 := by decide +kernel
  obtain ⟨hleft, hforth⟩ := dayNumber_iterate_next hepoch n.toNat
  obtain ⟨hright, hback⟩ := dayNumber_iterate_next h (-n).toNat
  rw [DaysSinceEpoch, ← dayNumber_inj hleft hright, hforth, hback, hzero]
  omega

/-- Before 1970-01-01 the date is the one to count from. -/
example : DaysSinceEpoch ⟨1969, 12, 30⟩ (-2) := by decide +kernel

/-! ## where day numbers end -/

/-- The last day number of a date: that of the last day of an era whose successor begins beyond the
range. -/
def lastDayNumber : Int := 9223372036854145980

/-- A number and the whole eras before its day are in range up to the last day number. -/
theorem fits_wholeEras_and_fits_iff {n : Int} :
    FitsInt64 ((n + 719468) / 146097 * 146097) ∧ FitsInt64 n ↔
      -9223372036854775808 ≤ n ∧ n ≤ lastDayNumber := by
  unfold FitsInt64 lastDayNumber
  omega

/-- A date that exists has its day number in 64 bits up to the last day number. -/
theorem dayNumber?_eq {d : Date} (h : d.Valid) :
    d.dayNumber? =
      if -9223372036854775808 ≤ d.dayNumber ∧ d.dayNumber ≤ lastDayNumber then .ok d.dayNumber
      else .error (.outOfRange s!"day number of {d.text}") := by
  have heras : (EraDay.ofDate d).wholeEras = (d.dayNumber + 719468) / 146097 * 146097 := by
    rw [← EraDay.wholeEras_ofDayNumber, ← ofDate_ofDayNumber, ofDayNumber_dayNumber h]
  rw [dayNumber?_of_valid h, heras]
  simp only [fits_wholeEras_and_fits_iff]

/-- A date that exists has the number of days that are counted up to it from 1970-01-01 as its day
number, if that is no less than the least integer of 64 bits and no more than the last day number.
Any other count is reported as out of range. -/
theorem dayNumber?_of_daysSinceEpoch {d : Date} {n : Int} (h : d.Valid)
    (hn : d.DaysSinceEpoch n) :
    d.dayNumber? =
      if -9223372036854775808 ≤ n ∧ n ≤ lastDayNumber then .ok n
      else .error (.outOfRange s!"day number of {d.text}") := by
  rw [daysSinceEpoch_iff h] at hn
  rw [dayNumber?_eq h, hn]

/-- The leap day at the end of the last era that fits is the last date with a day number. -/
theorem dayNumber?_of_last_day :
    Valid ⟨25252734927766800, 2, 29⟩ ∧
      DaysSinceEpoch ⟨25252734927766800, 2, 29⟩ 9223372036854145980 ∧
      (⟨25252734927766800, 2, 29⟩ : Date).dayNumber? = .ok 9223372036854145980 := by
  have hvalid : Valid ⟨25252734927766800, 2, 29⟩ := by decide
  have hcount : DaysSinceEpoch ⟨25252734927766800, 2, 29⟩ 9223372036854145980 :=
    (daysSinceEpoch_iff hvalid).2 (by decide +kernel)
  refine ⟨hvalid, hcount, ?_⟩
  rw [dayNumber?_of_daysSinceEpoch hvalid hcount, if_pos (by decide)]

/-- The day after it exists, and its count is an integer of 64 bits, but it has no day number. -/
theorem dayNumber?_refuses_fitting_count :
    ∃ (d : Date) (n : Int), d.Valid ∧ d.DaysSinceEpoch n ∧ FitsInt64 n ∧
      d.dayNumber? = .error (.outOfRange "day number of 25252734927766800-03-01") := by
  have hvalid : Valid ⟨25252734927766800, 3, 1⟩ := by decide
  exact ⟨⟨25252734927766800, 3, 1⟩, 9223372036854145981, hvalid,
    (daysSinceEpoch_iff hvalid).2 (by decide +kernel), by decide, by decide +kernel⟩

end Almanac.Date
