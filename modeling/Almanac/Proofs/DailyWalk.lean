import Almanac.Proofs.CivilOrder
import Almanac.Proofs.Run
import Mathlib.Algebra.BigOperators.Intervals
import Mathlib.Algebra.Order.Interval.Finset.SuccPred
import Mathlib.Data.Int.ConditionallyCompleteOrder
import Mathlib.Data.Int.Interval
import Mathlib.Data.Int.SuccPred
import Mathlib.Data.List.Iterate

/-!
# Almanac.Proofs.DailyWalk

A run with a step of one day walks the calendar.

A step adds a fixed number of seconds and knows of no dates.  It leaves the time of day as it is and
raises the day number by one (`Instant.dayNumber_of_days`, `Instant.secondOfDay_of_days`), and the
day numbers enumerate the dates (`Date.ofDayNumber_add`).  So the run goes from date to date
(`Stepping.dates_daily`), and it ends with the last day before the stop year, whatever time of day
it was begun at, because the beginning of the stop year is a midnight
(`Stepping.nth_daily_eq_none_iff`).

`Stepping.daily_walks_calendar` says which dates these are and how many.
-/

namespace Almanac

namespace Date

/-! ## counting on -/

/-- Day numbers are counted on from date to date. -/
theorem ofDayNumber_add (n : Int) (k : Nat) : ofDayNumber (n + k) = next^[k] (ofDayNumber n) := by
  obtain ⟨hvalid, hnumber⟩ := dayNumber_iterate_next (valid_ofDayNumber n) k
  rw [← ofDayNumber_dayNumber hvalid, hnumber, dayNumber_ofDayNumber]

/-- The beginnings of two years are as many days apart as the years between them have. -/
theorem newYear_eq_add_sum {y z : Int} (h : y ≤ z) :
    newYear z = newYear y + (∑ x ∈ Finset.Ico y z, daysInYear x : Nat) := by
  induction z, h using Int.leInduction with
  | base => simp
  | succ z hyz ih =>
      rw [← Finset.insert_Ico_right_eq_Ico_add_one hyz, Finset.sum_insert Finset.right_notMem_Ico,
        newYear_add_one, ih]
      omega

/-- The year ends the day before the next one begins. -/
theorem dayNumber_newYearsEve (year : Int) :
    Valid ⟨year - 1, 12, 31⟩ ∧ dayNumber ⟨year - 1, 12, 31⟩ = newYear year - 1 := by
  have hvalid : Valid ⟨year - 1, 12, 31⟩ := by simp [Valid, monthLength]
  have hnext := dayNumber_next hvalid
  have hyear : next ⟨year - 1, 12, 31⟩ = ⟨year, 1, 1⟩ := by simp [next, monthLength]
  rw [hyear] at hnext
  exact ⟨hvalid, by rw [newYear]; omega⟩

/-- No date is later than another one exactly when its day number is no greater. -/
theorem compare_fields_ne_gt_iff {d e : Date} (hd : d.Valid) (he : e.Valid) :
    compare d.fields e.fields ≠ .gt ↔ d.dayNumber ≤ e.dayNumber := by
  rw [← compare_dayNumber hd he, ne_eq, Int.compare_eq_gt, Int.not_lt]

/-! ## the dates from one to another -/

/-- Dates that follow each other are all different. -/
theorem nodup_iterate {d : Date} (h : d.Valid) (n : Nat) : (List.iterate next d n).Nodup := by
  rw [← List.range_map_iterate]
  refine List.nodup_range.map fun i j hij => ?_
  have hi := (dayNumber_iterate_next h i).2
  have hj := (dayNumber_iterate_next h j).2
  rw [hij] at hi
  omega

/-- The dates that follow a date are the later ones, up to a day number. -/
theorem mem_iterate_iff {d e : Date} (h : d.Valid) {n : Nat} :
    e ∈ List.iterate next d n ↔
      e.Valid ∧ d.dayNumber ≤ e.dayNumber ∧ e.dayNumber < d.dayNumber + n := by
  rw [List.mem_iterate]
  constructor
  · rintro ⟨k, hk, rfl⟩
    obtain ⟨hvalid, hnumber⟩ := dayNumber_iterate_next h k
    exact ⟨hvalid, by omega, by omega⟩
  · rintro ⟨he, hge, hlt⟩
    obtain ⟨hvalid, hnumber⟩ := dayNumber_iterate_next h (e.dayNumber - d.dayNumber).toNat
    exact ⟨_, by omega, (dayNumber_inj he hvalid).1 (by omega)⟩

end Date

namespace Instant

/-! ## whole days -/

variable {t u : Instant} {k : Nat}

theorem dayNumber_of_days (h : u.secs = t.secs + k * secsPerDay) :
    u.dayNumber = t.dayNumber + k := by
  simp only [dayNumber, secsPerDay] at *
  omega

theorem secondOfDay_of_days (h : u.secs = t.secs + k * secsPerDay) :
    u.secondOfDay = t.secondOfDay := by
  simp only [secondOfDay, secsPerDay] at *
  omega

/-- A number of days later it is that many dates later. -/
theorem date_of_days (h : u.secs = t.secs + k * secsPerDay) :
    u.civil.date = Date.next^[k] t.civil.date := by
  have hdate : u.civil.date = Date.ofDayNumber u.dayNumber := rfl
  rw [hdate, dayNumber_of_days h, Date.ofDayNumber_add]
  rfl

/-- An instant lies before a year when its day does. -/
theorem year_lt_iff_dayNumber {year : Int} : t.year < year ↔ t.dayNumber < Date.newYear year := by
  have hyear : t.year = (Date.ofDayNumber t.dayNumber).year := rfl
  rw [← Int.not_le, hyear, Date.le_year_ofDayNumber_iff, Int.not_le]

/-- Days before a year are counted from the day of an instant, whatever its time of day. -/
theorem secs_add_lt_newYearSecs_iff {year : Int} :
    t.secs + k * secsPerDay < newYearSecs year ↔ k < (Date.newYear year - t.dayNumber).toNat := by
  have hday := t.secondOfDay_lt
  rw [t.secs_eq_dayNumber, newYearSecs, secsPerDay]
  omega

end Instant

namespace Stepping

/-! ## calls of a daily run -/

/-- The dates of the instants of a run. -/
def dates (r : Stepping) : List Date := r.instants.map fun t => t.civil.date

section Daily

variable {t u stop : Instant} {stopYear : Int} {k : Nat}

/-- The days from the date of an instant to the end of the year before. -/
def daysLeft (t : Instant) (stopYear : Int) : Nat := (Date.newYear stopYear - t.dayNumber).toNat

/-- What a daily run answers is a number of days after its first instant. -/
theorem nth_daily_eq_some_iff :
    (daily t stopYear).nth k = some u ↔
      (u.secs = t.secs + k * secsPerDay ∧ u.nanos = t.nanos) ∧ k < daysLeft t stopYear := by
  rw [nth_eq_some_iff (r := daily t stopYear) rfl]
  refine and_congr_right fun ⟨hsecs, _⟩ => ?_
  have hday := Instant.dayNumber_of_days hsecs
  have hyear : u.year < (daily t stopYear).stopYear ↔ u.dayNumber < Date.newYear stopYear :=
    Instant.year_lt_iff_dayNumber
  rw [hyear, daysLeft]
  omega

/-- The run ends with the day before the stop year. -/
theorem nth_daily_eq_none_iff (hstop : stop.secs = Instant.newYearSecs stopYear) :
    (daily t stopYear).nth k = none ↔ daysLeft t stopYear ≤ k := by
  have hend := nth_eq_none_iff_of_stop (r := daily t stopYear) (t := t) (k := k) rfl hstop
  rw [hend, hstop, ← Int.not_lt, ← Nat.not_lt]
  exact not_congr Instant.secs_add_lt_newYearSecs_iff

theorem length_daily (hstop : stop.secs = Instant.newYearSecs stopYear) :
    (daily t stopYear).instants.length = daysLeft t stopYear :=
  length_instants_eq fun _ => nth_daily_eq_none_iff hstop

/-! ## the list of a daily run -/

/-- A daily run goes from date to date. -/
theorem dates_daily (hstop : stop.secs = Instant.newYearSecs stopYear) :
    dates (daily t stopYear) = List.iterate Date.next t.civil.date (daysLeft t stopYear) := by
  refine List.ext_getElem? fun k => ?_
  rw [dates, List.getElem?_map, getElem?_instants]
  cases hu : (daily t stopYear).nth k with
  | none =>
      have hk := (nth_daily_eq_none_iff hstop).1 hu
      rw [Option.map_none, List.getElem?_eq_none (by simpa using hk)]
  | some u =>
      obtain ⟨⟨hsecs, -⟩, hk⟩ := nth_daily_eq_some_iff.1 hu
      rw [Option.map_some, Instant.date_of_days hsecs, List.getElem?_iterate _ _ _ _ hk]

/-- A daily run keeps the time of day. -/
theorem clock_of_mem_daily (hu : u ∈ (daily t stopYear).instants) :
    u.civil.hour = t.civil.hour ∧ u.civil.minute = t.civil.minute ∧
      u.civil.second = t.civil.second ∧ u.civil.nanosecond = t.civil.nanosecond := by
  obtain ⟨k, hk⟩ := List.mem_iff_getElem?.1 hu
  rw [getElem?_instants] at hk
  obtain ⟨⟨hsecs, hnanos⟩, -⟩ := nth_daily_eq_some_iff.1 hk
  simp only [Instant.civil, Instant.secondOfDay_of_days hsecs, hnanos, and_self]

/-- The dates of a daily run begin with that of its first instant, and they are all up to the last
day before the stop year. -/
theorem mem_dates_daily_iff (hstop : stop.secs = Instant.newYearSecs stopYear) {d : Date} :
    d ∈ dates (daily t stopYear) ↔
      d.Valid ∧ compare t.civil.date.fields d.fields ≠ .gt ∧
        compare d.fields (⟨stopYear - 1, 12, 31⟩ : Date).fields ≠ .gt := by
  obtain ⟨hlast, hnumber⟩ := Date.dayNumber_newYearsEve stopYear
  rw [dates_daily hstop, Date.mem_iterate_iff t.valid_civil]
  refine and_congr_right fun hd => ?_
  rw [Date.compare_fields_ne_gt_iff t.valid_civil hd, Date.compare_fields_ne_gt_iff hd hlast,
    hnumber, t.dayNumber_civil, daysLeft]
  omega

/-- The last date of a daily run is the last one before the stop year. -/
theorem getLast?_dates_daily (hstop : stop.secs = Instant.newYearSecs stopYear)
    (hyear : t.year < stopYear) :
    (dates (daily t stopYear)).getLast? = some ⟨stopYear - 1, 12, 31⟩ := by
  have hpos := Instant.year_lt_iff_dayNumber.1 hyear
  have hlast : t.dayNumber + (daysLeft t stopYear - 1 : Nat) = Date.newYear stopYear - 1 := by
    rw [daysLeft]
    omega
  obtain ⟨hvalid, hnumber⟩ := Date.dayNumber_newYearsEve stopYear
  have hdate : Date.next^[daysLeft t stopYear - 1] t.civil.date = ⟨stopYear - 1, 12, 31⟩ := by
    have hadd := Date.ofDayNumber_add t.dayNumber (daysLeft t stopYear - 1)
    rw [hlast, ← hnumber, Date.ofDayNumber_dayNumber hvalid] at hadd
    exact hadd.symm
  have hlt : daysLeft t stopYear - 1 < daysLeft t stopYear := by
    rw [daysLeft]
    omega
  rw [dates_daily hstop, List.getLast?_eq_getElem?, List.length_iterate,
    List.getElem?_iterate _ _ _ _ hlt, hdate]

end Daily

/-- A daily run from an instant up to a later year, the beginning of which can be represented, walks
the calendar.

* Its calls answer with the instants of a list.
* The dates of the list are those that follow each other from the date of the first instant to
  31 December before the stop year: each date in between occurs, and no date occurs twice.
* All instants have the time of day of the first one.
* Their number is the day number of the beginning of the stop year less that of the first instant.
  From 1 January it is the sum of the lengths of the years. -/
theorem daily_walks_calendar {t midnight : Instant} {stopYear : Int} (hyear : t.year < stopYear)
    (hstop : Instant.atMidnight ⟨stopYear, 1, 1⟩ = .ok midnight) :
    (∀ k, (daily t stopYear).nth k = (daily t stopYear).instants[k]?) ∧
    (dates (daily t stopYear) =
        List.iterate Date.next t.civil.date (daily t stopYear).instants.length ∧
      (dates (daily t stopYear)).getLast? = some ⟨stopYear - 1, 12, 31⟩) ∧
    ((dates (daily t stopYear)).Nodup ∧
      ∀ d, d ∈ dates (daily t stopYear) ↔
        d.Valid ∧ compare t.civil.date.fields d.fields ≠ .gt ∧
          compare d.fields (⟨stopYear - 1, 12, 31⟩ : Date).fields ≠ .gt) ∧
    (∀ u ∈ (daily t stopYear).instants,
      u.civil.hour = t.civil.hour ∧ u.civil.minute = t.civil.minute ∧
        u.civil.second = t.civil.second ∧ u.civil.nanosecond = t.civil.nanosecond) ∧
    (∃ n, (⟨stopYear, 1, 1⟩ : Date).dayNumber? = .ok n ∧
      ((daily t stopYear).instants.length : Int) = n - t.secs / 86400) ∧
    ∀ firstYear, t.civil.date = ⟨firstYear, 1, 1⟩ →
      (daily t stopYear).instants.length =
        ∑ year ∈ Finset.Ico firstYear stopYear, daysInYear year := by
  obtain ⟨n, hn, -, -⟩ := Instant.atMidnight_eq_ok_iff.1 hstop
  have hsecs := Instant.secs_of_atMidnight_newYear hstop
  have hlength := length_daily (t := t) hsecs
  have hpos := Instant.year_lt_iff_dayNumber.1 hyear
  refine ⟨fun k => (getElem?_instants _ k).symm, ⟨?_, getLast?_dates_daily hsecs hyear⟩,
    ⟨?_, fun d => mem_dates_daily_iff hsecs⟩, fun u hu => clock_of_mem_daily hu, ⟨n, hn, ?_⟩,
    ?_⟩
  · rw [dates_daily hsecs, hlength]
  · rw [dates_daily hsecs]
    exact Date.nodup_iterate t.valid_civil _
  · obtain ⟨-, -, rfl⟩ := Date.dayNumber?_eq_ok_iff.1 hn
    have hday : t.secs / 86400 = t.dayNumber := rfl
    change _ = Date.newYear stopYear - _
    rw [hlength, hday, daysLeft]
    omega
  · intro firstYear hfirst
    have hfirstDay : t.dayNumber = Date.newYear firstYear := by
      rw [← t.dayNumber_civil, hfirst, Date.newYear]
    have hle : firstYear ≤ stopYear := by
      have hyears : t.year = firstYear := congrArg Date.year hfirst
      omega
    have hsum := Date.newYear_eq_add_sum hle
    rw [hlength, daysLeft]
    omega

/-- Noon on 1 January 1900, and a nanosecond. -/
def noon1900 : Instant := ⟨-2208945600, 1, by decide, by decide⟩

/-- Five years from 1900 on have one leap day, because 1900 has none. -/
theorem daily_walks_calendar_from_1900 :
    noon1900.year < 1905 ∧ (∃ midnight, Instant.atMidnight ⟨1905, 1, 1⟩ = .ok midnight) ∧
      noon1900.civil.date = ⟨1900, 1, 1⟩ ∧ (daily noon1900 1905).instants.length = 1826 ∧
      (dates (daily noon1900 1905)).getLast? = some ⟨1904, 12, 31⟩ ∧
      ⟨1900, 2, 29⟩ ∉ dates (daily noon1900 1905) ∧
      ⟨1904, 2, 29⟩ ∈ dates (daily noon1900 1905) := by
  have hyear : noon1900.year < 1905 := by decide +kernel
  have hstop : Instant.atMidnight ⟨1905, 1, 1⟩ = .ok ⟨-2051222400, 0, by decide, by decide⟩ := by
    decide +kernel
  have hfirst : noon1900.civil.date = ⟨1900, 1, 1⟩ := by decide +kernel
  obtain ⟨-, ⟨-, hlast⟩, ⟨-, hmem⟩, -, -, hsum⟩ := daily_walks_calendar hyear hstop
  refine ⟨hyear, ⟨_, hstop⟩, hfirst, (hsum 1900 hfirst).trans (by decide +kernel), hlast, ?_, ?_⟩
  · rw [hmem]
    decide +kernel
  · rw [hmem]
    decide +kernel

end Stepping

end Almanac
