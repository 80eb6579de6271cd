import Almanac.Calendar.YearDay
import Almanac.Proofs.DayCount

/-!
# Almanac.Proofs.OrdinalDay

Ordinal days beside day numbers.  The two are computed in unrelated ways: an ordinal day is looked up
in a table of months that begins with January and has a shift for the leap day, while a day number
is put together from eras whose years begin in March.

* `Date.dayNumber_eq_newYear` — both count the same days: the day number of a date is that of the
  1 January of its year and the ordinal day behind it;
* `YearDay.monthUpTo_eq` — the search that goes down from December stops at the month that holds
  the ordinal day, because the months follow each other without a gap
  (`YearDay.monthStart_add_monthLength`);
* `YearDay.agrees_with_dayNumber` — the dates that have an ordinal day, its value beside the day
  number, and the way back.
-/

namespace Almanac

/-! ## dates that do not exist -/

namespace Date

theorem check_of_month {d : Date} (h : ¬ (1 ≤ d.month ∧ d.month ≤ 12)) :
    d.check = .error (.noSuchMonth d.month) := by
  rw [check, daysInMonth, if_neg h, Outcome.error_bind]

theorem check_of_day {d : Date} (hmonth : 1 ≤ d.month ∧ d.month ≤ 12)
    (h : ¬ (1 ≤ d.day ∧ d.day ≤ monthLength d.year d.month)) :
    d.check = .error (.noSuchDay d.day d.month d.year (monthLength d.year d.month)) := by
  rw [check, daysInMonth, if_pos hmonth, Outcome.ok_bind, if_neg h]
  rfl

theorem dayNumber?_of_check_error {d : Date} {e : CalendarError} (h : d.check = .error e) :
    d.dayNumber? = .error e := by
  rw [dayNumber?, h, Outcome.error_bind]

end Date

namespace YearDay

theorem ofDate_of_check_error {d : Date} {e : CalendarError} (h : d.check = .error e) :
    ofDate d = .error e := by
  rw [ofDate, h, Outcome.error_bind]

theorem ofDate_of_valid {d : Date} (h : d.Valid) : ofDate d = .ok (ofValidDate d) := by
  rw [ofDate, Date.check_eq_ok_iff.2 h]
  rfl

/-- A date has an ordinal day exactly when it exists. -/
theorem ofDate_eq_ok_iff {d : Date} {y : YearDay} :
    ofDate d = .ok y ↔ d.Valid ∧ ofValidDate d = y := by
  unfold ofDate
  simp only [Outcome.bind_eq_ok_iff, Outcome.pure_eq_ok_iff, ← Date.check_eq_ok_iff]
  exact ⟨fun ⟨_, h⟩ => h, fun h => ⟨(), h⟩⟩

/-! ## the months of a year -/

/-- The months of a year follow each other without a gap. -/
theorem monthStart_add_monthLength {m : Nat} (h1 : 1 ≤ m) (h : m < 12) (year : Int) :
    monthStart year m + monthLength year m = monthStart year (m + 1) := by
  unfold monthStart leapShift
  cases hleap : isLeapYear year <;> interval_cases m <;> simp [monthLength, commonMonthStart, hleap]

/-- December ends with the year. -/
theorem monthStart_add_december (year : Int) :
    monthStart year 12 + monthLength year 12 = daysInYear year + 1 := by
  unfold monthStart leapShift daysInYear
  cases hleap : isLeapYear year <;> simp [monthLength, commonMonthStart]

/-- Later months start later. -/
theorem monthStart_mono {m n : Nat} (h1 : 1 ≤ m) (h : m ≤ n) (h12 : n ≤ 12) (year : Int) :
    monthStart year m ≤ monthStart year n := by
  induction n, h using Nat.le_induction with
  | base => exact Nat.le_refl _
  | succ n hmn ih =>
      have hnext := monthStart_add_monthLength (m := n) (by omega) (by omega) year
      have hle := ih (by omega)
      omega

/-- A day of a month is a day of its year. -/
theorem monthStart_add_le {m : Nat} (h1 : 1 ≤ m) (h12 : m ≤ 12) (year : Int) :
    monthStart year m + monthLength year m ≤ daysInYear year + 1 := by
  rw [← monthStart_add_december]
  obtain h | rfl : m < 12 ∨ m = 12 := by omega
  · rw [monthStart_add_monthLength h1 h]
    have hle := monthStart_mono (m := m + 1) (by omega) h (Nat.le_refl _) year
    omega
  · exact Nat.le_refl _

/-- The search finds the month that starts before the ordinal day or on it, if no later one does. -/
theorem monthUpTo_eq {year : Int} {ordinal m n : Nat} (h1 : 1 ≤ m) (hmn : m ≤ n)
    (hstart : monthStart year m ≤ ordinal)
    (hlater : ∀ k, m < k → k ≤ n → ordinal < monthStart year k) :
    monthUpTo year ordinal n = m := by
  fun_induction monthUpTo year ordinal n with
  | case1 => omega
  | case2 => omega
  | case3 n hn hle =>
      -- A month below this one would not be the last that starts early enough.
      have hlt : ¬ m < n + 1 := fun hlt => by
        have := hlater (n + 1) hlt (Nat.le_refl _)
        omega
      omega
  | case4 n hn hlt ih =>
      have hm : m ≠ n + 1 := by
        rintro rfl
        exact hlt hstart
      exact ih (by omega) fun k hmk hkn => hlater k hmk (Nat.le_succ_of_le hkn)

/-! ## ordinal days -/

/-- The ordinal day counts on from the start of the month. -/
theorem ordinal_ofValidDate {d : Date} (h : d.Valid) :
    (ofValidDate d).ordinal + 1 = monthStart d.year d.month + d.day := by
  have hday := h.2.2.1
  simp only [ofValidDate, monthStart]
  omega

/-- The ordinal day is one of the year's. -/
theorem ordinal_bounds {d : Date} (h : d.Valid) :
    1 ≤ (ofValidDate d).ordinal ∧ (ofValidDate d).ordinal ≤ daysInYear d.year := by
  have hordinal := ordinal_ofValidDate h
  obtain ⟨h1, h12, hday, hlast⟩ := h
  have hend := monthStart_add_le h1 h12 d.year
  have hfirst := monthStart_mono (Nat.le_refl 1) h1 h12 d.year
  have hone : monthStart d.year 1 = 1 := rfl
  omega

/-- A month of the year comes back from each of its ordinal days. -/
theorem monthUpTo_ofValidDate {d : Date} (h : d.Valid) :
    monthUpTo d.year (ofValidDate d).ordinal 12 = d.month := by
  have hordinal := ordinal_ofValidDate h
  obtain ⟨h1, h12, hday, hlast⟩ := h
  refine monthUpTo_eq h1 h12 (by omega) fun k hmk hk => ?_
  have hnext := monthStart_add_monthLength h1 (by omega) d.year
  have hmono := monthStart_mono (m := d.month + 1) (by omega) hmk hk d.year
  omega

/-- An ordinal day that the year has passes. -/
theorem inYear_of_le {year : Int} {ordinal : Nat} (h : 1 ≤ ordinal ∧ ordinal ≤ daysInYear year) :
    inYear year ordinal = .ok ⟨ordinal⟩ := if_pos h

/-- Month and day come back from the ordinal day of a date. -/
theorem monthDay_ofValidDate {d : Date} (h : d.Valid) :
    (ofValidDate d).monthDay d.year = .ok (d.month, d.day) := by
  have hordinal := ordinal_ofValidDate h
  have hday : (ofValidDate d).ordinal - monthStart d.year d.month + 1 = d.day := by
    have := h.2.2.1
    omega
  rw [monthDay, inYear_of_le (ordinal_bounds h), Outcome.ok_bind]
  simp only [monthUpTo_ofValidDate h, hday]
  rfl

/-- An ordinal day that the year does not have is refused. -/
theorem monthDay_eq_error_iff {y : YearDay} {year : Int} {e : CalendarError} :
    y.monthDay year = .error e ↔ ¬ (1 ≤ y.ordinal ∧ y.ordinal ≤ daysInYear year) ∧
      e = .noSuchYearDay y.ordinal year (daysInYear year) := by
  unfold monthDay inYear
  split
  · simp [bind, Except.bind, pure, Except.pure, *]
  · simp [eq_comm, *]

end YearDay

/-! ## day numbers -/

/-- The days behind 1 March are counted from there in an era and from 1 January in a year. -/
theorem YearDay.monthStart_of_two_lt {m : Nat} (h : 2 < m) (h12 : m ≤ 12) (year : Int) :
    monthStart year m + 306 = EraDay.monthStart (m - 3) + daysInYear year + 1 := by
  unfold monthStart leapShift daysInYear
  cases hleap : isLeapYear year <;> interval_cases m <;> simp [commonMonthStart, EraDay.monthStart]

/-- January and February follow the 306 days from March to December. -/
theorem YearDay.monthStart_of_le_two {m : Nat} (h1 : 1 ≤ m) (h : m ≤ 2) (year : Int) :
    monthStart year m + 305 = EraDay.monthStart (m + 9) := by
  interval_cases m <;> rfl

namespace Date

/-- The day number of a date is that of the beginning of its year and the ordinal day behind it. -/
theorem dayNumber_eq_newYear {d : Date} (h : d.Valid) :
    d.dayNumber = newYear d.year + (YearDay.ofValidDate d).ordinal - 1 := by
  have hordinal := YearDay.ordinal_ofValidDate h
  rw [newYear_eq, dayNumber_eq h]
  by_cases h2 : d.month ≤ 2
  · obtain ⟨hyear, hmonth⟩ := march_of_le_two h2
    have hstart := YearDay.monthStart_of_le_two h.1 h2 d.year
    rw [hyear, hmonth]
    omega
  · obtain ⟨hyear, hmonth⟩ := march_of_two_lt (Nat.lt_of_not_le h2)
    have hstart := YearDay.monthStart_of_two_lt (Nat.lt_of_not_le h2) h.2.1 d.year
    -- Behind February the year of the era has begun, and the calendar year lies before it.
    have hpassed := marchDays_add_one (d.year - 1)
    rw [Int.sub_add_cancel] at hpassed
    rw [hyear, hmonth, hpassed]
    omega

/-- The leap days of the years from 1 up to a year. -/
def leapDays (year : Int) : Int := year / 4 - year / 100 + year / 400

/-- The beginning of a year, counted in common years and leap days. -/
theorem newYear_eq_leapDays (year : Int) :
    newYear year = 365 * (year - 1970) + leapDays (year - 1) - 477 := by
  rw [newYear_eq, marchDays, leapDays]
  omega

/-- Each ordinal day of a year is that of one of its dates. -/
theorem exists_ofValidDate {year : Int} {ordinal : Nat}
    (h : 1 ≤ ordinal ∧ ordinal ≤ daysInYear year) :
    ∃ d : Date, d.Valid ∧ d.year = year ∧ YearDay.ofValidDate d = ⟨ordinal⟩ := by
  -- The date is found by its day number, which lies between the beginnings of two years.
  obtain ⟨n, hn⟩ : ∃ n, n = newYear year + ordinal - 1 := ⟨_, rfl⟩
  have hnext := newYear_add_one year
  have hvalid := valid_ofDayNumber n
  have hge : year ≤ (ofDayNumber n).year := le_year_ofDayNumber_iff.2 (by omega)
  have hlt : ¬ year + 1 ≤ (ofDayNumber n).year := by
    rw [le_year_ofDayNumber_iff]
    omega
  have hyear : (ofDayNumber n).year = year := by omega
  have hnumber := dayNumber_eq_newYear hvalid
  rw [dayNumber_ofDayNumber, hyear] at hnumber
  have hordinal : (YearDay.ofValidDate (ofDayNumber n)).ordinal = ordinal := by omega
  exact ⟨ofDayNumber n, hvalid, hyear, congrArg YearDay.mk hordinal⟩

end Date

namespace YearDay

/-- A year and an ordinal day of it have a month and day, which have that ordinal day. -/
theorem exists_monthDay {year : Int} {ordinal : Nat}
    (h : 1 ≤ ordinal ∧ ordinal ≤ daysInYear year) :
    ∃ month day, monthDay ⟨ordinal⟩ year = .ok (month, day) ∧
      ofDate ⟨year, month, day⟩ = .ok ⟨ordinal⟩ := by
  obtain ⟨d, hvalid, rfl, hordinal⟩ := Date.exists_ofValidDate h
  have hback := monthDay_ofValidDate hvalid
  rw [hordinal] at hback
  exact ⟨d.month, d.day, hback, ofDate_eq_ok_iff.2 ⟨hvalid, hordinal⟩⟩

/-- An ordinal day that was made, for a year or from a date. -/
def Made (y : YearDay) : Prop :=
  (∃ year, inYear year y.ordinal = .ok y) ∨ ∃ d, ofDate d = .ok y

/-- Whatever it was made from, it is an ordinal day of some year. -/
theorem Made.exists_year {y : YearDay} (h : y.Made) :
    ∃ year, 1 ≤ y.ordinal ∧ y.ordinal ≤ daysInYear year := by
  obtain ⟨year, hyear⟩ | ⟨d, hd⟩ := h
  · refine ⟨year, ?_⟩
    by_contra hout
    rw [inYear, if_neg hout] at hyear
    contradiction
  · obtain ⟨hvalid, rfl⟩ := ofDate_eq_ok_iff.1 hd
    exact ⟨d.year, ordinal_bounds hvalid⟩

/-- A year lacks an ordinal day of other years only as the 366th day of a common year. -/
theorem Made.not_in_year_iff {y : YearDay} (h : y.Made) {year : Int} :
    ¬ (1 ≤ y.ordinal ∧ y.ordinal ≤ daysInYear year) ↔
      y.ordinal = 366 ∧ isLeapYear year = false := by
  obtain ⟨made, h1, hlast⟩ := h.exists_year
  have hle := daysInYear_le made
  unfold daysInYear at hlast hle ⊢
  cases isLeapYear year <;> simp <;> omega

/-- Ordinal days and day numbers go together.

* A date has an ordinal day exactly when it exists; otherwise the error is that of its day number,
  about the month before the day.
* A day number is put together from common years, the leap days of the finished years, and the
  ordinal day.
* Month and day come back from the ordinal day in its year, and each ordinal day of a year has a
  month and day, which lead back to it.  Of the ordinal days that were made, a year refuses only the
  366th, if it is a common year. -/
theorem agrees_with_dayNumber :
    (∀ d : Date,
      ((∃ y, ofDate d = .ok y) ↔ d.Valid) ∧
      (¬ (1 ≤ d.month ∧ d.month ≤ 12) →
        ofDate d = .error (.noSuchMonth d.month) ∧
          d.dayNumber? = .error (.noSuchMonth d.month)) ∧
      (1 ≤ d.month ∧ d.month ≤ 12 → ¬ (1 ≤ d.day ∧ d.day ≤ monthLength d.year d.month) →
        ofDate d = .error (.noSuchDay d.day d.month d.year (monthLength d.year d.month)) ∧
          d.dayNumber? =
            .error (.noSuchDay d.day d.month d.year (monthLength d.year d.month)))) ∧
    (∀ (d : Date) (n : Int), d.dayNumber? = .ok n → ∃ y, ofDate d = .ok y ∧
      n = 365 * (d.year - 1970) + Date.leapDays (d.year - 1) - 477 + y.ordinal - 1) ∧
    (∀ (d : Date) (y : YearDay), ofDate d = .ok y → y.monthDay d.year = .ok (d.month, d.day)) ∧
    (∀ (year : Int) (ordinal : Nat), 1 ≤ ordinal → ordinal ≤ daysInYear year →
      ∃ month day, monthDay ⟨ordinal⟩ year = .ok (month, day) ∧
        ofDate ⟨year, month, day⟩ = .ok ⟨ordinal⟩) ∧
    ∀ y : YearDay, y.Made → ∀ (year : Int) (e : CalendarError),
      y.monthDay year = .error e ↔
        (y.ordinal = 366 ∧ isLeapYear year = false) ∧ e = .noSuchYearDay 366 year 365 := by
  refine ⟨fun d => ⟨?_, fun hmonth => ?_, fun hmonth hday => ?_⟩, fun d n hn => ?_, fun d y hy => ?_,
    fun year ordinal h1 hlast => exists_monthDay ⟨h1, hlast⟩, fun y hmade year e => ?_⟩
  · simp [ofDate_eq_ok_iff]
  · have hcheck := Date.check_of_month hmonth
    exact ⟨ofDate_of_check_error hcheck, Date.dayNumber?_of_check_error hcheck⟩
  · have hcheck := Date.check_of_day hmonth hday
    exact ⟨ofDate_of_check_error hcheck, Date.dayNumber?_of_check_error hcheck⟩
  · obtain ⟨hvalid, -, rfl⟩ := Date.dayNumber?_eq_ok_iff.1 hn
    refine ⟨ofValidDate d, ofDate_of_valid hvalid, ?_⟩
    rw [Date.dayNumber_eq_newYear hvalid, Date.newYear_eq_leapDays]
  · obtain ⟨hvalid, rfl⟩ := ofDate_eq_ok_iff.1 hy
    exact monthDay_ofValidDate hvalid
  · rw [monthDay_eq_error_iff, hmade.not_in_year_iff]
    refine and_congr_right fun ⟨hlast, hcommon⟩ => ?_
    rw [hlast, daysInYear, hcommon]
    rfl

/-- A leap day before year 0, the 366th day of a leap year in a common one, and two dates that do
not exist. -/
theorem agrees_with_dayNumber_at_leap_days :
    (⟨-4, 2, 29⟩ : Date).dayNumber? = .ok (-720930) ∧
      (∃ y, ofDate ⟨-4, 2, 29⟩ = .ok y ∧
        -720930 = 365 * (-4 - 1970) + Date.leapDays (-4 - 1) - 477 + y.ordinal - 1 ∧
        y.monthDay (-4) = .ok (2, 29)) ∧
      (1 ≤ 366 ∧ 366 ≤ daysInYear 2000) ∧
      (∃ month day, monthDay ⟨366⟩ 2000 = .ok (month, day) ∧
        ofDate ⟨2000, month, day⟩ = .ok ⟨366⟩) ∧
      Made ⟨366⟩ ∧ monthDay ⟨366⟩ 1900 = .error (.noSuchYearDay 366 1900 365) ∧
      ofDate ⟨2000, 13, 1⟩ = .error (.noSuchMonth 13) ∧
      ofDate ⟨1900, 2, 29⟩ = .error (.noSuchDay 29 2 1900 28) := by
  obtain ⟨hdate, hnumber, hback, hforth, hmade⟩ := agrees_with_dayNumber
  have hleap : (⟨-4, 2, 29⟩ : Date).dayNumber? = .ok (-720930) := by decide +kernel
  have hbounds : 1 ≤ 366 ∧ 366 ≤ daysInYear 2000 := by decide
  have hlast : Made ⟨366⟩ := .inl ⟨2000, rfl⟩
  obtain ⟨y, hy, heq⟩ := hnumber _ _ hleap
  refine ⟨hleap, ⟨y, hy, heq, hback _ y hy⟩, hbounds, hforth _ _ hbounds.1 hbounds.2, hlast, ?_, ?_,
    ?_⟩
  · exact (hmade _ hlast _ _).2 ⟨⟨rfl, by decide⟩, rfl⟩
  · exact ((hdate ⟨2000, 13, 1⟩).2.1 (by decide)).1
  · exact ((hdate ⟨1900, 2, 29⟩).2.2 (by decide) (by decide)).1

end YearDay

end Almanac
