import Almanac.Calendar.Instant
import Almanac.Proofs.DayCount

/-!
# Almanac.Proofs.CivilTime

The breakdown of an instant in UTC.  Its date exists (`Instant.valid_civil`), its time of day is one
(`Instant.civil_time_lt`), and both together make up the seconds (`Instant.secs_eq_civil`).

An instant has seconds in 64 bits, so its day lies far inside of the range of the day numbers: the
number comes back from the date without leaving the range (`Instant.dayNumber?_civil`).  With it
`Instant.civil_breaks_down_exactly` says that nothing is lost.
-/

namespace Almanac.Instant

/-- The date of an instant exists. -/
theorem valid_civil (t : Instant) : t.civil.date.Valid := Date.valid_ofDayNumber t.dayNumber

theorem dayNumber_civil (t : Instant) : t.civil.date.dayNumber = t.dayNumber :=
  Date.dayNumber_ofDayNumber t.dayNumber

theorem secondOfDay_lt (t : Instant) : t.secondOfDay < 86400 := by
  simp only [secondOfDay, secsPerDay]
  omega

/-- The time of an instant is one of a day. -/
theorem civil_time_lt (t : Instant) :
    t.civil.hour < 24 ∧ t.civil.minute < 60 ∧ t.civil.second < 60 := by
  have hday := t.secondOfDay_lt
  simp only [civil]
  omega

/-- The day and the second of the day make up the seconds. -/
theorem secs_eq_dayNumber (t : Instant) : t.secs = t.dayNumber * 86400 + t.secondOfDay := by
  simp only [dayNumber, secondOfDay, secsPerDay]
  omega

theorem secondOfDay_eq_civil (t : Instant) :
    t.secondOfDay = t.civil.hour * 3600 + t.civil.minute * 60 + t.civil.second := by
  simp only [civil]
  omega

/-- The date and the time of day make up the seconds. -/
theorem secs_eq_civil (t : Instant) :
    t.secs = t.civil.date.dayNumber * 86400 +
      (t.civil.hour * 3600 + t.civil.minute * 60 + t.civil.second : Nat) := by
  rw [dayNumber_civil, ← secondOfDay_eq_civil]
  exact t.secs_eq_dayNumber

/-- The date of an instant has a day number. -/
theorem dayNumber?_civil (t : Instant) : t.civil.date.dayNumber? = .ok t.dayNumber := by
  have hsecs := t.secs_fits
  have hfits : -9223372036854775808 ≤ t.dayNumber ∧ t.dayNumber ≤ Date.lastDayNumber := by
    simp only [FitsInt64, dayNumber, secsPerDay, Date.lastDayNumber] at *
    omega
  rw [Date.dayNumber?_eq t.valid_civil, dayNumber_civil, if_pos hfits]

/-- The breakdown of an instant is a date that exists and a time of day, and the instant can be put
together from them: the date has a day number, and the seconds before its day and on it are those of
the instant. -/
theorem civil_breaks_down_exactly (t : Instant) :
    (1 ≤ t.civil.date.month ∧ t.civil.date.month ≤ 12) ∧
      (∃ last, daysInMonth t.civil.date.year t.civil.date.month = .ok last ∧
        1 ≤ t.civil.date.day ∧ t.civil.date.day ≤ last) ∧
      (t.civil.hour ≤ 23 ∧ t.civil.minute ≤ 59 ∧ t.civil.second ≤ 59) ∧
      t.civil.nanosecond = t.nanos ∧
      ∃ n, t.civil.date.dayNumber? = .ok n ∧
        n * 86400 + t.civil.hour * 3600 + t.civil.minute * 60 + t.civil.second = t.secs := by
  obtain ⟨h1, h12, hday, hlast⟩ := t.valid_civil
  have htime := t.civil_time_lt
  have hsecs := t.secs_eq_civil
  rw [dayNumber_civil] at hsecs
  refine ⟨⟨h1, h12⟩, ⟨_, if_pos ⟨h1, h12⟩, hday, hlast⟩, by omega, rfl, ?_⟩
  exact ⟨t.dayNumber, t.dayNumber?_civil, by omega⟩

end Almanac.Instant
