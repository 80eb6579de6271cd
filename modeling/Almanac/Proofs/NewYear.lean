import Almanac.Proofs.Midnight

/-!
# Almanac.Proofs.NewYear

The beginning of a year divides the instants into those before the year and those of it or later.

As a matter of seconds this holds of every year (`Instant.le_year_iff`), and the beginning of a year
is the midnight of its 1 January if there is one.  The years whose 1 January has no midnight lie
beyond the instants: the seconds before it are out of range at one end, so either no instant has
reached the year or every instant has (`Instant.year_lt_of_above`, `Instant.le_year_of_below`).
-/

namespace Almanac

namespace Date

/-- 1 January is as many days from 1970-01-01 as its day number says. -/
theorem daysSinceEpoch_newYear (year : Int) : DaysSinceEpoch ⟨year, 1, 1⟩ (newYear year) :=
  (daysSinceEpoch_iff (valid_newYear year)).2 rfl

end Date

namespace Instant

/-- A year that begins after the last second is later than every instant. -/
theorem year_lt_of_above {year : Int} (h : 9223372036854775807 < newYearSecs year) (t : Instant) :
    t.year < year := by
  have hfits := t.secs_fits
  rw [← Int.not_le, le_year_iff]
  unfold FitsInt64 at hfits
  omega

/-- A year that begins before the first second is reached by every instant. -/
theorem le_year_of_below {year : Int} (h : newYearSecs year < -9223372036854775808) (t : Instant) :
    year ≤ t.year := by
  have hfits := t.secs_fits
  rw [le_year_iff]
  unfold FitsInt64 at hfits
  omega

/-- Without a midnight, 1 January lies beyond one of the ends, and the range is what is reported. -/
theorem atMidnight_newYear_error {year : Int} {e : CalendarError}
    (h : atMidnight ⟨year, 1, 1⟩ = .error e) :
    (∃ quantity, e = .outOfRange quantity) ∧ ¬ FitsInt64 (newYearSecs year) := by
  have hvalid := Date.valid_newYear year
  have hfits : ¬ FitsInt64 (newYearSecs year) := by
    intro hfits
    obtain ⟨m, hm⟩ := (exists_atMidnight_iff hvalid).2 hfits
    rw [h] at hm
    contradiction
  obtain ⟨quantity, hquantity⟩ := exists_error_of_not_fits hvalid hfits
  rw [h, Except.error.injEq] at hquantity
  exact ⟨⟨quantity, hquantity⟩, hfits⟩

/-- The beginning of a year, `n` days from 1970-01-01, separates the instants.

* If it is an instant, those at it or after it are the ones that have reached the year.
* If it is not, this is for the range.  It lies above the last second, and no instant has reached
  the year, or below the first one, and every instant has. -/
theorem newYear_separates (year : Int) :
    ∃ n, Date.DaysSinceEpoch ⟨year, 1, 1⟩ n ∧
      (∀ b, atMidnight ⟨year, 1, 1⟩ = .ok b →
        b.secs = 86400 * n ∧ ∀ t : Instant, year ≤ t.year ↔ b.secs ≤ t.secs) ∧
      ∀ e, atMidnight ⟨year, 1, 1⟩ = .error e →
        (∃ quantity, e = .outOfRange quantity) ∧
          ((9223372036854775807 < 86400 * n ∧ ∀ t : Instant, t.year < year) ∨
            (86400 * n < -9223372036854775808 ∧ ∀ t : Instant, year ≤ t.year)) := by
  have hsecs : 86400 * Date.newYear year = newYearSecs year := Int.mul_comm ..
  refine ⟨Date.newYear year, Date.daysSinceEpoch_newYear year, fun b hb => ?_, fun e he => ?_⟩
  · have hbegin := secs_of_atMidnight_newYear hb
    rw [hsecs, hbegin]
    exact ⟨rfl, fun t => le_year_iff⟩
  · obtain ⟨hrange, hfits⟩ := atMidnight_newYear_error he
    rw [hsecs]
    obtain h | h : 9223372036854775807 < newYearSecs year ∨
        newYearSecs year < -9223372036854775808 := by
      unfold FitsInt64 at hfits
      omega
    · exact ⟨hrange, .inl ⟨h, year_lt_of_above h⟩⟩
    · exact ⟨hrange, .inr ⟨h, le_year_of_below h⟩⟩

/-- 2000 begins at an instant.  The year after the last one begins too late for all instants, and
the year of the first instants has begun before all of them. -/
theorem newYear_separates_at_ends :
    (∃ b, atMidnight ⟨2000, 1, 1⟩ = .ok b ∧ b.secs = 946684800 ∧
      ∀ t : Instant, 2000 ≤ t.year ↔ b.secs ≤ t.secs) ∧
    (∃ e, atMidnight ⟨292277026597, 1, 1⟩ = .error e ∧ ∀ t : Instant, t.year < 292277026597) ∧
    ∃ e, atMidnight ⟨-292277022657, 1, 1⟩ = .error e ∧ ∀ t : Instant, -292277022657 ≤ t.year := by
  have number {year n : Int} (h : Date.DaysSinceEpoch ⟨year, 1, 1⟩ n) : Date.newYear year = n :=
    (Date.daysSinceEpoch_iff (Date.valid_newYear year)).1 h
  refine ⟨?_, ?_, ?_⟩
  · obtain ⟨n, -, hok, -⟩ := newYear_separates 2000
    have hb : atMidnight ⟨2000, 1, 1⟩ = .ok ⟨946684800, 0, by decide, by decide⟩ := by
      decide +kernel
    exact ⟨_, hb, rfl, (hok _ hb).2⟩
  · obtain ⟨n, hn, -, herror⟩ := newYear_separates 292277026597
    have hlast : Date.newYear 292277026597 = 106751991167328 := by decide +kernel
    have he : atMidnight ⟨292277026597, 1, 1⟩ =
        .error (.outOfRange "seconds at 292277026597-01-01") := by decide +kernel
    obtain ⟨-, ⟨-, h⟩ | ⟨h, -⟩⟩ := herror _ he
    · exact ⟨_, he, h⟩
    · rw [← number hn, hlast] at h
      contradiction
  · obtain ⟨n, hn, -, herror⟩ := newYear_separates (-292277022657)
    have hfirst : Date.newYear (-292277022657) = -106751991167327 := by decide +kernel
    have he : atMidnight ⟨-292277022657, 1, 1⟩ =
        .error (.outOfRange "seconds at -292277022657-01-01") := by decide +kernel
    obtain ⟨-, ⟨h, -⟩ | ⟨-, h⟩⟩ := herror _ he
    · rw [← number hn, hfirst] at h
      contradiction
    · exact ⟨_, he, h⟩

end Instant

end Almanac
