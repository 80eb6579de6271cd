import Almanac.Calendar.Date
import Mathlib.Tactic.IntervalCases

/-!
# Almanac.Proofs.Era

The conversion between the days of an era and dates, in both directions.

The conversion from a day to its date divides by the lengths of the periods and corrects the
quotient, while the way back adds up the starts of year and month.  They meet in `Located`, which
names a day of an era by the year, the month and the day of the month that hold it, all counted
from 0 and the year from March:

* `exists_located` — every day of an era lies in one of its years and months;
* `Located.toDate_eq` — the divisions find that year and month;
* `located_ofDate` — the date of a valid date's day is located where the date says.

That the conversions undo each other (`ofDate_toDate`, `toDate_ofDate`) follows from these.
-/

namespace Almanac

/-! ## the leap rule -/

theorem isLeapYear_iff (year : Int) :
    isLeapYear year = true ↔ year % 4 = 0 ∧ (year % 100 ≠ 0 ∨ year % 400 = 0) := by
  simp only [isLeapYear, Bool.or_eq_true, Bool.and_eq_true, beq_iff_eq, bne_iff_ne]
  omega

/-- The length of a year by the leap rule, in the form in which `omega` can use it. -/
theorem daysInYear_eq (year : Int) :
    daysInYear year =
      if year % 4 = 0 ∧ (year % 100 ≠ 0 ∨ year % 400 = 0) then 366 else 365 := by
  simp only [daysInYear, isLeapYear_iff]

theorem daysInYear_le (year : Int) : daysInYear year ≤ 366 := by
  rw [daysInYear_eq]
  split <;> omega

theorem le_daysInYear (year : Int) : 365 ≤ daysInYear year := by
  rw [daysInYear_eq]
  split <;> omega

/-- The leap rule repeats in every era. -/
theorem isLeapYear_add_eras (year era : Int) :
    isLeapYear (year + era * 400) = isLeapYear year := by
  rw [Bool.eq_iff_iff, isLeapYear_iff, isLeapYear_iff]
  omega

/-- February takes what the other months leave of the year. -/
theorem add_monthLength_two (year : Int) : 337 + monthLength year 2 = daysInYear year := by
  simp only [monthLength, daysInYear]
  split <;> rfl

/-- Only February depends on the year. -/
theorem monthLength_congr {y z : Int} {month : Nat}
    (h : month = 2 → isLeapYear y = isLeapYear z) : monthLength y month = monthLength z month := by
  by_cases hm : month = 2
  · subst hm
    simp only [monthLength, h rfl]
  · unfold monthLength
    split <;> first | contradiction | rfl

/-- No month is longer than 31 days. -/
theorem monthLength_le (year : Int) (month : Nat) : monthLength year month ≤ 31 := by
  unfold monthLength
  split
  · split <;> decide
  all_goals decide

namespace EraDay

/-! ## the years of an era -/

/-- A year of the era lies in one of four centuries, there in one of 25 periods of four years. -/
private theorem exists_century {y : Nat} (hy : y < 400) :
    ∃ c q j, c < 4 ∧ q < 25 ∧ j < 4 ∧ y = 100 * c + 4 * q + j :=
  ⟨y / 100, y % 100 / 4, y % 4, by omega, by omega, by omega, by omega⟩

/-- The start of a year, by its century and its period. -/
private theorem yearStart_century {c q j : Nat} (hq : q < 25) (hj : j < 4) :
    yearStart (100 * c + 4 * q + j) = 36524 * c + 1461 * q + 365 * j := by
  have h4 : (100 * c + 4 * q + j) / 4 = 25 * c + q := by omega
  have h100 : (100 * c + 4 * q + j) / 100 = c := by omega
  rw [yearStart, h4, h100]
  omega

/-- A year that begins in March has as many days as the calendar year in which it ends, so only
the last year of a period has a leap day, and the last one of a century only in the last
century. -/
private theorem lt_daysInYear_century_iff {c q j k : Nat} (hc : c < 4) (hq : q < 25) (hj : j < 4) :
    k < daysInYear ((100 * c + 4 * q + j : Nat) + 1) ↔
      k < 365 ∨ k = 365 ∧ j = 3 ∧ (q < 24 ∨ c = 3) := by
  rw [daysInYear_eq]
  split <;> omega

/-- The era has a year for each of its days. -/
theorem exists_year {n : Nat} (h : n < 146097) :
    ∃ y k : Nat, y < 400 ∧ k < daysInYear (y + 1) ∧ n = yearStart y + k := by
  -- The day that a century, a period or a year has in excess belongs to its last part.
  have hc : ∃ c r, c < 4 ∧ n = 36524 * c + r ∧ (r < 36524 ∨ r = 36524 ∧ c = 3) :=
    ⟨min (n / 36524) 3, n - 36524 * min (n / 36524) 3, by omega, by omega, by omega⟩
  obtain ⟨c, r, hc, rfl, hr⟩ := hc
  have hj : ∃ j k, j < 4 ∧ r % 1461 = 365 * j + k ∧ (k < 365 ∨ k = 365 ∧ j = 3) :=
    ⟨min (r % 1461 / 365) 3, r % 1461 - 365 * min (r % 1461 / 365) 3, by omega, by omega, by omega⟩
  obtain ⟨j, k, hj, hjk, hk⟩ := hj
  have hq : r / 1461 < 25 := by omega
  refine ⟨100 * c + 4 * (r / 1461) + j, k, by omega, ?_, ?_⟩
  · have := (lt_daysInYear_century_iff (k := k) hc hq hj).2 (by omega)
    exact this
  · rw [yearStart_century hq hj]
    omega

/-- The corrected quotient is the year of the era that holds the day. -/
theorem yearOfEra_eq {e : EraDay} {y k : Nat} (hy : y < 400) (hk : k < daysInYear (y + 1))
    (h : e.day = yearStart y + k) : e.yearOfEra = y := by
  obtain ⟨c, q, j, hc, hq, hj, rfl⟩ := exists_century hy
  rw [lt_daysInYear_century_iff hc hq hj] at hk
  rw [yearStart_century hq hj] at h
  -- The last two corrections add one day for each finished century, and take out the day that
  -- would begin a fifth one.
  have hcent : e.day / 36524 - e.day / 146096 = c := by
    have hr : 1461 * q + 365 * j + k < 36524 ∨ e.day = 146096 ∧ c = 3 := by omega
    obtain hr | ⟨hr, rfl⟩ := hr
    · have h1 : e.day / 36524 = c := by omega
      have h2 : e.day / 146096 = 0 := by omega
      rw [h1, h2]
      rfl
    · rw [hr]
  -- The first one takes out the leap day of each finished period, and the last day of a period.
  have hper : e.day / 1460 =
      25 * c + q + if 1460 ≤ 24 * c + q + 365 * j + k then 1 else 0 := by
    split <;> omega
  have hle : e.day / 146096 ≤ e.day / 36524 := by omega
  have hsum : e.day - e.day / 1460 + e.day / 36524 - e.day / 146096 =
      e.day - e.day / 1460 + c := by omega
  rw [yearOfEra, hsum, hper]
  split <;> omega

/-- The years of an era fill it. -/
theorem yearStart_add_daysInYear_le {y : Nat} (hy : y < 400) :
    yearStart y + daysInYear (y + 1) ≤ 146097 := by
  rw [yearStart, daysInYear_eq]
  split <;> omega

/-! ## the months of a year that begins in March -/

/-- The number in the calendar of a month that is counted from March. -/
def calendarMonth (m : Nat) : Nat := if m < 10 then m + 3 else m - 9

/-- The months follow each other without a gap. -/
theorem monthStart_add_monthLength {m : Nat} (hm : m < 11) (year : Int) :
    monthStart m + monthLength year (calendarMonth m) = monthStart (m + 1) := by
  interval_cases m <;> rfl

/-- The last month, February, ends with the year. -/
theorem monthStart_add_february (year : Int) :
    monthStart 11 + monthLength year (calendarMonth 11) = daysInYear year :=
  add_monthLength_two year

/-- The quotient finds the last month that does not begin after the day. -/
theorem le_quotient_iff {m k : Nat} : m ≤ (5 * k + 2) / 153 ↔ monthStart m ≤ k := by
  unfold monthStart
  omega

theorem quotient_monthStart_add {year : Int} {m j : Nat} (hm : m < 12)
    (hj : j < monthLength year (calendarMonth m)) : (5 * (monthStart m + j) + 2) / 153 = m := by
  have hle : m ≤ (5 * (monthStart m + j) + 2) / 153 := le_quotient_iff.2 (Nat.le_add_right ..)
  have hlt : ¬ m + 1 ≤ (5 * (monthStart m + j) + 2) / 153 := by
    rw [le_quotient_iff]
    by_cases h : m < 11
    · have := monthStart_add_monthLength h year
      omega
    · obtain rfl : m = 11 := by omega
      have := monthStart_add_february year
      have := daysInYear_le year
      simp only [monthStart] at *
      omega
  omega

/-- A day of a month is a day of the year. -/
theorem monthStart_add_lt {year : Int} {m j : Nat} (hm : m < 12)
    (hj : j < monthLength year (calendarMonth m)) : monthStart m + j < daysInYear year := by
  by_cases h : m < 11
  · have := monthStart_add_monthLength h year
    have := le_daysInYear year
    simp only [monthStart] at *
    omega
  · obtain rfl : m = 11 := by omega
    have := monthStart_add_february year
    omega

/-- The year has a month for each of its days. -/
theorem exists_month {year : Int} {k : Nat} (h : k < daysInYear year) :
    ∃ m j, m < 12 ∧ j < monthLength year (calendarMonth m) ∧ k = monthStart m + j := by
  have hle := daysInYear_le year
  have hstart : monthStart ((5 * k + 2) / 153) ≤ k := le_quotient_iff.1 (Nat.le_refl _)
  have hend : ¬ monthStart ((5 * k + 2) / 153 + 1) ≤ k := by
    rw [← le_quotient_iff]
    omega
  generalize hm : (5 * k + 2) / 153 = m at hstart hend
  refine ⟨m, k - monthStart m, by omega, ?_, by omega⟩
  by_cases hlt : m < 11
  · have := monthStart_add_monthLength hlt year
    omega
  · obtain rfl : m = 11 := by omega
    have := monthStart_add_february year
    omega

/-! ## where a day lies -/

/-- The day of an era is day `j` of month `m` of year `y`, all counted from 0. -/
structure Located (e : EraDay) (y m j : Nat) : Prop where
  year_lt : y < 400
  month_lt : m < 12
  day_lt : j < monthLength (y + 1) (calendarMonth m)
  day_eq : e.day = yearStart y + (monthStart m + j)

/-- Every day of an era lies in one of its years and months. -/
theorem exists_located {e : EraDay} (h : e.day < 146097) : ∃ y m j, Located e y m j := by
  obtain ⟨y, k, hy, hk, he⟩ := exists_year h
  obtain ⟨m, j, hm, hj, rfl⟩ := exists_month hk
  exact ⟨y, m, j, hy, hm, hj, he⟩

namespace Located

variable {e : EraDay} {y m j : Nat}

theorem yearOfEra_eq (h : Located e y m j) : e.yearOfEra = y :=
  EraDay.yearOfEra_eq h.year_lt (monthStart_add_lt h.month_lt h.day_lt) h.day_eq

theorem dayOfYear_eq (h : Located e y m j) : e.dayOfYear = monthStart m + j := by
  rw [dayOfYear, h.yearOfEra_eq, h.day_eq, Nat.add_sub_cancel_left]

theorem marchMonth_eq (h : Located e y m j) : e.marchMonth = m := by
  rw [marchMonth, h.dayOfYear_eq, quotient_monthStart_add h.month_lt h.day_lt]

theorem month_eq (h : Located e y m j) : e.month = calendarMonth m := by
  rw [← h.marchMonth_eq]
  rfl

theorem dayOfMonth_eq (h : Located e y m j) : e.dayOfMonth = j + 1 := by
  rw [dayOfMonth, h.marchMonth_eq, h.dayOfYear_eq, Nat.add_sub_cancel_left]

/-- The date of a day is the year and month where it lies. -/
theorem toDate_eq (h : Located e y m j) : e.toDate =
    ⟨y + e.era * 400 + (if calendarMonth m ≤ 2 then 1 else 0), calendarMonth m, j + 1⟩ := by
  rw [toDate, h.yearOfEra_eq, h.month_eq, h.dayOfMonth_eq]

/-- The day is one of the era's. -/
theorem lt (h : Located e y m j) : e.day < 146097 := by
  have := monthStart_add_lt h.month_lt h.day_lt
  have := yearStart_add_daysInYear_le h.year_lt
  have := h.day_eq
  omega

end Located

/-- The date of a day exists. -/
theorem valid_toDate {e : EraDay} (h : e.day < 146097) : e.toDate.Valid := by
  obtain ⟨y, m, j, hl⟩ := exists_located h
  have hm := hl.month_lt
  have hmonth : 1 ≤ calendarMonth m ∧ calendarMonth m ≤ 12 := by
    unfold calendarMonth
    split <;> omega
  rw [hl.toDate_eq]
  refine ⟨hmonth.1, hmonth.2, Nat.le_add_left .., ?_⟩
  have hlen : monthLength (y + e.era * 400 + (if calendarMonth m ≤ 2 then 1 else 0))
      (calendarMonth m) = monthLength (y + 1) (calendarMonth m) := by
    refine monthLength_congr fun h2 => ?_
    rw [if_pos (by omega), ← isLeapYear_add_eras (y + 1) e.era]
    congr 1
    omega
  simp only [hlen]
  exact hl.day_lt

end EraDay

/-! ## dates -/

namespace Date

/-- The year that began in March and holds the date. -/
def marchYear (d : Date) : Int := if d.month ≤ 2 then d.year - 1 else d.year

/-- The month of the date, counted from March. -/
def marchMonth (d : Date) : Nat := if 2 < d.month then d.month - 3 else d.month + 9

theorem calendarMonth_marchMonth {d : Date} (h : d.Valid) :
    EraDay.calendarMonth d.marchMonth = d.month := by
  obtain ⟨h1, h12, -, -⟩ := h
  unfold EraDay.calendarMonth marchMonth
  split <;> split <;> omega

theorem marchMonth_lt {d : Date} (h : d.Valid) : d.marchMonth < 12 := by
  obtain ⟨h1, h12, -, -⟩ := h
  unfold marchMonth
  split <;> omega

end Date

namespace EraDay

/-- The day of a valid date lies where the date says. -/
theorem located_ofDate {d : Date} (h : d.Valid) :
    Located (ofDate d) (d.marchYear % 400).toNat d.marchMonth (d.day - 1) := by
  have hmonth := Date.calendarMonth_marchMonth h
  obtain ⟨-, -, hday, hlen⟩ := id h
  refine ⟨by omega, Date.marchMonth_lt h, ?_, ?_⟩
  · have heq : monthLength ((d.marchYear % 400).toNat + 1) d.month = monthLength d.year d.month := by
      refine monthLength_congr fun h2 => ?_
      have hyear : ((d.marchYear % 400).toNat : Int) + 1 + d.marchYear / 400 * 400 = d.year := by
        unfold Date.marchYear
        rw [if_pos (by omega)]
        omega
      rw [← isLeapYear_add_eras _ (d.marchYear / 400), hyear]
    rw [hmonth, heq]
    omega
  · rw [← Nat.add_sub_assoc hday]
    rfl

/-- A valid date comes back from the day of its era. -/
theorem toDate_ofDate {d : Date} (h : d.Valid) : (ofDate d).toDate = d := by
  rw [(located_ofDate h).toDate_eq, Date.calendarMonth_marchMonth h]
  obtain ⟨year, month, day⟩ := d
  obtain ⟨-, -, hday, -⟩ := h
  simp only [Date.mk.injEq, ofDate, Date.marchYear, true_and] at *
  split <;> omega

/-- The date of a day lies in the year and month where the day does. -/
theorem Located.march_toDate {e : EraDay} {y m j : Nat} (h : Located e y m j) :
    e.toDate.marchYear = y + e.era * 400 ∧ e.toDate.marchMonth = m := by
  have hm := h.month_lt
  rw [h.toDate_eq]
  simp only [Date.marchYear, Date.marchMonth, calendarMonth]
  grind

/-- A day of an era comes back from its date. -/
theorem ofDate_toDate {e : EraDay} (h : e.day < 146097) : ofDate e.toDate = e := by
  obtain ⟨y, m, j, hl⟩ := exists_located h
  have hy := hl.year_lt
  obtain ⟨hyear, hmonth⟩ := hl.march_toDate
  have hday : (ofDate e.toDate).day = e.day := by
    have hyoe : (e.toDate.marchYear % 400).toNat = y := by omega
    have hdom : e.toDate.day - 1 = j := by rw [hl.toDate_eq]; rfl
    rw [(located_ofDate (valid_toDate h)).day_eq, hyoe, hmonth, hdom, hl.day_eq]
  have hera : (ofDate e.toDate).era = e.era := by
    change e.toDate.marchYear / 400 = e.era
    omega
  generalize ofDate e.toDate = d at hday hera
  cases d
  cases e
  simp_all

/-! ## day numbers -/

theorem day_ofDayNumber_lt (n : Int) : (ofDayNumber n).day < 146097 := by
  simp only [ofDayNumber, daysPerEra]
  omega

/-- A day number comes back from the day of its era. -/
theorem dayNumber_ofDayNumber (n : Int) : (ofDayNumber n).dayNumber = n := by
  simp only [dayNumber, wholeEras, ofDayNumber, daysPerEra, epochShift]
  omega

/-- A day of an era comes back from its day number. -/
theorem ofDayNumber_dayNumber {e : EraDay} (h : e.day < 146097) :
    ofDayNumber e.dayNumber = e := by
  obtain ⟨era, day⟩ := e
  simp only [ofDayNumber, dayNumber, wholeEras, daysPerEra, epochShift, mk.injEq] at *
  omega

end EraDay

namespace Date

/-- The date of a day number exists. -/
theorem valid_ofDayNumber (n : Int) : (ofDayNumber n).Valid :=
  EraDay.valid_toDate (EraDay.day_ofDayNumber_lt n)

/-- A day number comes back from its date. -/
theorem dayNumber_ofDayNumber (n : Int) : (ofDayNumber n).dayNumber = n := by
  rw [dayNumber, ofDayNumber, EraDay.ofDate_toDate (EraDay.day_ofDayNumber_lt n),
    EraDay.dayNumber_ofDayNumber]

/-- A valid date comes back from its day number. -/
theorem ofDayNumber_dayNumber {d : Date} (h : d.Valid) : ofDayNumber d.dayNumber = d := by
  rw [ofDayNumber, dayNumber, EraDay.ofDayNumber_dayNumber (EraDay.located_ofDate h).lt,
    EraDay.toDate_ofDate h]

end Date

end Almanac
