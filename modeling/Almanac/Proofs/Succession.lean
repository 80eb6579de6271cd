import Almanac.Proofs.Era

/-!
# Almanac.Proofs.Succession

Day numbers enumerate the dates of the proleptic Gregorian calendar in order.

The calendar is given by its rules alone: a date is followed by the next day of its month, after
the last day of a month comes the first of the next one, and after December the next year
(`Date.next`).  Day numbers are compared with it through their closed form
(`Date.dayNumber_eq`), which adds up whole years, whole months and days and mentions no era.

* `Date.dayNumber_next` — the next date has the next day number;
* `Date.ofDayNumber_enumerates_calendar` — the date of a day number is the calendar's, counted from
  1970-01-01;
* `Date.le_year_ofDayNumber_iff` — a year is reached with the day number of its 1 January.
-/

namespace Almanac.Date

/-! ## the closed form -/

/-- The days from 0000-03-01 to 1 March of a year. -/
def marchDays (year : Int) : Int := 365 * year + year / 4 - year / 100 + year / 400

/-- From March to March the year passes that ends in the second one. -/
theorem marchDays_add_one (year : Int) :
    marchDays (year + 1) = marchDays year + daysInYear (year + 1) := by
  rw [daysInYear_eq]
  unfold marchDays
  split <;> omega

theorem marchDays_era (year : Int) :
    marchDays year = year / 400 * daysPerEra + EraDay.yearStart (year % 400).toNat := by
  simp only [marchDays, daysPerEra, EraDay.yearStart]
  omega

/-- The day number of a valid date: whole years, whole months of the last one, and the days before
the date in its month. -/
theorem dayNumber_eq {d : Date} (h : d.Valid) :
    d.dayNumber = marchDays d.marchYear + EraDay.monthStart d.marchMonth + d.day - 719469 := by
  have hday := (EraDay.located_ofDate h).day_eq
  have hpos : 1 ≤ d.day := h.2.2.1
  have hera : (EraDay.ofDate d).era = d.marchYear / 400 := rfl
  rw [dayNumber, EraDay.dayNumber, EraDay.wholeEras, hera, hday, marchDays_era]
  simp only [epochShift]
  omega

/-! ## the calendar -/

/-- The date after a date. -/
def next (d : Date) : Date :=
  if d.day < monthLength d.year d.month then { d with day := d.day + 1 }
  else if d.month < 12 then ⟨d.year, d.month + 1, 1⟩
  else ⟨d.year + 1, 1, 1⟩

/-- The 1st of a month is a date. -/
theorem valid_first {year : Int} {month : Nat} (h1 : 1 ≤ month) (h12 : month ≤ 12) :
    Valid ⟨year, month, 1⟩ := by
  refine ⟨h1, h12, Nat.le_refl 1, ?_⟩
  interval_cases month <;> simp only [monthLength] <;> first | decide | (split <;> decide)

theorem valid_newYear (year : Int) : Valid ⟨year, 1, 1⟩ := valid_first (Nat.le_refl 1) (by decide)

theorem valid_next {d : Date} (h : d.Valid) : d.next.Valid := by
  obtain ⟨h1, h12, -, -⟩ := id h
  unfold next
  split
  · exact ⟨h1, h12, Nat.le_add_left .., ‹_›⟩
  · split
    · exact valid_first (Nat.le_add_left ..) ‹_›
    · exact valid_newYear (d.year + 1)

/-- January and February belong to the March year before. -/
theorem march_of_le_two {d : Date} (h : d.month ≤ 2) :
    d.marchYear = d.year - 1 ∧ d.marchMonth = d.month + 9 :=
  ⟨if_pos h, if_neg (by omega)⟩

theorem march_of_two_lt {d : Date} (h : 2 < d.month) :
    d.marchYear = d.year ∧ d.marchMonth = d.month - 3 :=
  ⟨if_neg (by omega), if_pos h⟩

/-- After the last day of any month but February follows the next month of the same March year. -/
theorem march_next_of_lt {d : Date} (h : d.Valid) (hlast : ¬ d.day < monthLength d.year d.month)
    (hm : d.marchMonth < 11) :
    d.next.marchYear = d.marchYear ∧ d.next.marchMonth = d.marchMonth + 1 ∧ d.next.day = 1 := by
  obtain ⟨h1, h12, -, -⟩ := h
  rw [next, if_neg hlast]
  split
  · simp only [marchYear, marchMonth] at *
    grind
  · simp only [marchYear, marchMonth] at *
    grind

/-- After the last day of February begins a March year. -/
theorem march_next_of_february {d : Date} (h : d.Valid)
    (hlast : ¬ d.day < monthLength d.year d.month) (hm : d.marchMonth = 11) :
    d.next.marchYear = d.marchYear + 1 ∧ d.next.marchMonth = 0 ∧ d.next.day = 1 := by
  have h2 : d.month = 2 := by
    rw [← calendarMonth_marchMonth h, hm]
    rfl
  rw [next, if_neg hlast, h2, if_pos (by decide), (march_of_le_two (Nat.le_of_eq h2)).1]
  exact ⟨(Int.sub_add_cancel ..).symm, rfl, rfl⟩

/-- The next date has the next day number. -/
theorem dayNumber_next {d : Date} (h : d.Valid) : d.next.dayNumber = d.dayNumber + 1 := by
  rw [dayNumber_eq (valid_next h), dayNumber_eq h]
  by_cases hday : d.day < monthLength d.year d.month
  · have hnext : d.next = { d with day := d.day + 1 } := if_pos hday
    rw [hnext]
    change marchDays d.marchYear + EraDay.monthStart d.marchMonth + (d.day + 1 : Nat) - 719469 = _
    omega
  -- From here on the date is the last one of its month.
  have hmonth := calendarMonth_marchMonth h
  have hday : d.day = monthLength d.year d.month := by
    have := h.2.2.2
    omega
  by_cases hm : d.marchMonth < 11
  · obtain ⟨hy', hm', hd'⟩ := march_next_of_lt h (by omega) hm
    have hlen := EraDay.monthStart_add_monthLength hm d.year
    rw [hmonth] at hlen
    rw [hy', hm', hd', ← hlen]
    omega
  · have hm : d.marchMonth = 11 := by
      have := marchMonth_lt h
      omega
    obtain ⟨hy', hm', hd'⟩ := march_next_of_february h (by omega) hm
    rw [hm] at hmonth
    have hlen := EraDay.monthStart_add_february d.year
    have hyear : d.marchYear + 1 = d.year := by
      have hle : d.month ≤ 2 := by
        rw [← hmonth]
        decide
      rw [(march_of_le_two hle).1, Int.sub_add_cancel]
    rw [hmonth] at hlen
    rw [hy', hm', hd', hm, marchDays_add_one, hyear, ← hlen]
    simp only [EraDay.monthStart]
    omega

/-- The dates of the day numbers are the proleptic Gregorian calendar, counted from 1970-01-01:
each exists, and the date of the next number is the next date. -/
theorem ofDayNumber_enumerates_calendar :
    ofDayNumber 0 = ⟨1970, 1, 1⟩ ∧
      ∀ n : Int, (ofDayNumber n).Valid ∧ ofDayNumber (n + 1) = (ofDayNumber n).next := by
  refine ⟨by decide +kernel, fun n => ⟨valid_ofDayNumber n, ?_⟩⟩
  have hnext : (ofDayNumber n).next.dayNumber = n + 1 := by
    rw [dayNumber_next (valid_ofDayNumber n), dayNumber_ofDayNumber]
  rw [← hnext, ofDayNumber_dayNumber (valid_next (valid_ofDayNumber n))]

/-! ## the beginnings of years -/

/-- The day number of 1 January of a year. -/
def newYear (year : Int) : Int := dayNumber ⟨year, 1, 1⟩

theorem newYear_eq (year : Int) : newYear year = marchDays (year - 1) - 719162 := by
  have hm : (⟨year, 1, 1⟩ : Date).month ≤ 2 := by simp only []; decide
  rw [newYear, dayNumber_eq (valid_newYear year), (march_of_le_two hm).1,
    (march_of_le_two hm).2]
  simp only [EraDay.monthStart]
  omega

/-- From new year to new year the first of the two years passes. -/
theorem newYear_add_one (year : Int) : newYear (year + 1) = newYear year + daysInYear year := by
  have := marchDays_add_one (year - 1)
  rw [Int.sub_add_cancel] at this
  rw [newYear_eq, newYear_eq, Int.add_sub_cancel, this]
  omega

theorem newYear_mono {y z : Int} (h : y ≤ z) : newYear y ≤ newYear z := by
  simp only [newYear_eq, marchDays]
  omega

/-- A date lies between the beginnings of its year and the next. -/
theorem newYear_le_dayNumber_lt {d : Date} (h : d.Valid) :
    newYear d.year ≤ d.dayNumber ∧ d.dayNumber < newYear (d.year + 1) := by
  have hmonth := calendarMonth_marchMonth h
  obtain ⟨h1, h12, hday, hlen⟩ := id h
  have hlt : EraDay.monthStart d.marchMonth + (d.day - 1) < daysInYear d.year := by
    refine EraDay.monthStart_add_lt (marchMonth_lt h) ?_
    rw [hmonth]
    omega
  have hyear := marchDays_add_one (d.year - 1)
  rw [Int.sub_add_cancel] at hyear
  rw [newYear_add_one, newYear_eq, dayNumber_eq h]
  by_cases h2 : d.month ≤ 2
  · obtain ⟨hy, hm⟩ := march_of_le_two h2
    have hstart : 306 ≤ EraDay.monthStart d.marchMonth := by
      rw [hm, EraDay.monthStart]
      omega
    rw [hy]
    omega
  · obtain ⟨hy, hm⟩ := march_of_two_lt (Nat.lt_of_not_le h2)
    have hend := EraDay.monthStart_add_monthLength (m := d.marchMonth) (by omega) d.year
    have hstart : EraDay.monthStart (d.marchMonth + 1) ≤ 306 := by
      rw [hm, EraDay.monthStart]
      omega
    have hle := le_daysInYear d.year
    rw [hmonth] at hend
    rw [hy]
    omega

/-- A year is reached with its 1 January. -/
theorem le_year_ofDayNumber_iff {year n : Int} :
    year ≤ (ofDayNumber n).year ↔ newYear year ≤ n := by
  obtain ⟨hge, hlt⟩ := newYear_le_dayNumber_lt (valid_ofDayNumber n)
  rw [dayNumber_ofDayNumber] at hge hlt
  constructor
  · intro h
    exact Int.le_trans (newYear_mono h) hge
  · intro h
    have hmono := @newYear_mono ((ofDayNumber n).year + 1) year
    omega

end Almanac.Date
