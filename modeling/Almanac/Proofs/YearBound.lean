import Almanac.Calendar.Instant
import Almanac.Proofs.Outcome
import Almanac.Proofs.Succession

/-!
# Almanac.Proofs.YearBound

The year of an instant is a matter of its seconds: it reaches a year with the first second of that
year's 1 January (`Instant.le_year_iff`).  So later instants have later years, and a bound on the
year can be replaced by a bound on the seconds.
-/

namespace Almanac

namespace Instant

/-! ## the year -/

/-- The first second of a year. -/
def newYearSecs (year : Int) : Int := Date.newYear year * secsPerDay

/-- An instant lies in a year or after it when it lies at or after the first second of that year. -/
theorem le_year_iff {t : Instant} {year : Int} : year ≤ t.year ↔ newYearSecs year ≤ t.secs := by
  have hyear : t.year = (Date.ofDayNumber (t.secs / secsPerDay)).year := rfl
  rw [hyear, Date.le_year_ofDayNumber_iff, newYearSecs]
  exact Int.le_ediv_iff_mul_le (by decide)

/-- Later instants have later years. -/
theorem year_mono {t u : Instant} (h : t.secs ≤ u.secs) : t.year ≤ u.year :=
  le_year_iff.2 (Int.le_trans (le_year_iff.1 (Int.le_refl _)) h)

/-! ## steps -/

theorem addSecs?_eq_some_iff {t u : Instant} {n : Int} :
    t.addSecs? n = some u ↔ u.secs = t.secs + n ∧ u.nanos = t.nanos := atSecs?_eq_some_iff

theorem addSecs?_eq_none_iff {t : Instant} {n : Int} :
    t.addSecs? n = none ↔ ¬ FitsInt64 (t.secs + n) := atSecs?_eq_none_iff

end Instant

/-! ## midnights -/

/-- A day number in 64 bits is that of a date that exists. -/
theorem Date.dayNumber?_eq_ok_iff {d : Date} {n : Int} :
    d.dayNumber? = .ok n ↔ d.Valid ∧ (FitsInt64 (EraDay.ofDate d).wholeEras ∧
      FitsInt64 d.dayNumber) ∧ d.dayNumber = n := by
  unfold dayNumber?
  simp only [Outcome.bind_eq_ok_iff, Outcome.require_eq_ok_iff, Outcome.pure_eq_ok_iff]
  constructor
  · intro h
    obtain ⟨_, hcheck, hn⟩ := h
    exact ⟨check_eq_ok_iff.1 hcheck, hn⟩
  · intro h
    obtain ⟨hvalid, hn⟩ := h
    exact ⟨(), check_eq_ok_iff.2 hvalid, hn⟩

/-- A midnight is the beginning of a date that has a day number. -/
theorem Instant.atMidnight_eq_ok_iff {d : Date} {t : Instant} :
    atMidnight d = .ok t ↔
      ∃ n, d.dayNumber? = .ok n ∧ t.secs = n * secsPerDay ∧ t.nanos = 0 := by
  unfold atMidnight
  rw [Outcome.bind_eq_ok_iff]
  refine exists_congr fun n => and_congr_right fun _ => ?_
  rw [← atSecs?_eq_some_iff (h := by decide)]
  split <;> simp_all [Outcome.pure_eq_ok_iff, Outcome.throw_ne_ok]

/-- The beginning of a year. -/
theorem Instant.secs_of_atMidnight_newYear {year : Int} {t : Instant}
    (h : atMidnight ⟨year, 1, 1⟩ = .ok t) : t.secs = newYearSecs year := by
  obtain ⟨n, hn, hsecs, -⟩ := atMidnight_eq_ok_iff.1 h
  obtain ⟨-, -, rfl⟩ := Date.dayNumber?_eq_ok_iff.1 hn
  exact hsecs

end Almanac
