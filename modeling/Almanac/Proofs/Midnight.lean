import Almanac.Proofs.NanosecondCount

/-!
# Almanac.Proofs.Midnight

The beginning of a date as an instant.  Two numbers have to stay in range on the way to it, the day
number and the seconds.  The days of 64 bits of seconds are few beside the day numbers, so only the
seconds decide (`Instant.dayNumber?_of_fits`).

From the date of an instant the beginning of its day is met again, that is its seconds rounded down
to a whole day.  They can be rounded down for every instant but those of the first day, which begins
before the first instant (`Instant.atMidnight_rounds_down`).
-/

namespace Almanac.Instant

/-! ## which midnights there are -/

/-- A date with a day number has a beginning when its seconds fit. -/
theorem atMidnight_of_fits {d : Date} {n : Int} (hn : d.dayNumber? = .ok n)
    (h : FitsInt64 (n * secsPerDay)) : ∃ t, atMidnight d = .ok t :=
  ⟨⟨n * secsPerDay, 0, h, by decide⟩, atMidnight_eq_ok_iff.2 ⟨n, hn, rfl, rfl⟩⟩

theorem atMidnight_of_not_fits {d : Date} {n : Int} (hn : d.dayNumber? = .ok n)
    (h : ¬ FitsInt64 (n * secsPerDay)) :
    atMidnight d = .error (.outOfRange s!"seconds at {d.text}") := by
  have hnone : atSecs? (n * secsPerDay) 0 (by decide) = none := atSecs?_eq_none_iff.2 h
  simp only [atMidnight, hn, Outcome.ok_bind, hnone]
  rfl

/-- A date whose beginning can be represented has a day number. -/
theorem dayNumber?_of_fits {d : Date} (h : d.Valid) (hfits : FitsInt64 (d.dayNumber * secsPerDay)) :
    d.dayNumber? = .ok d.dayNumber := by
  rw [Date.dayNumber?_eq h]
  refine if_pos ?_
  simp only [FitsInt64, secsPerDay, Date.lastDayNumber] at *
  omega

/-- A date that exists has a beginning exactly when its seconds fit. -/
theorem exists_atMidnight_iff {d : Date} (h : d.Valid) :
    (∃ m, atMidnight d = .ok m) ↔ FitsInt64 (d.dayNumber * secsPerDay) := by
  constructor
  · rintro ⟨m, hm⟩
    obtain ⟨n, hn, hsecs, -⟩ := atMidnight_eq_ok_iff.1 hm
    obtain ⟨-, -, rfl⟩ := Date.dayNumber?_eq_ok_iff.1 hn
    rw [← hsecs]
    exact m.secs_fits
  · intro hfits
    exact atMidnight_of_fits (dayNumber?_of_fits h hfits) hfits

/-- A date that exists fails to have a beginning only for the range. -/
theorem exists_error_of_not_fits {d : Date} (h : d.Valid)
    (hfits : ¬ FitsInt64 (d.dayNumber * secsPerDay)) :
    ∃ quantity, atMidnight d = .error (.outOfRange quantity) := by
  cases hn : d.dayNumber? with
  | error e =>
      have hrange := Date.dayNumber?_eq h
      rw [hn] at hrange
      split at hrange
      · contradiction
      · rw [Except.error.injEq] at hrange
        exact ⟨_, by rw [atMidnight, hn, Outcome.error_bind, hrange]⟩
  | ok n =>
      obtain ⟨-, -, rfl⟩ := Date.dayNumber?_eq_ok_iff.1 hn
      exact ⟨_, atMidnight_of_not_fits hn hfits⟩

/-! ## what they are -/

/-- A midnight shows its date, at no time of day. -/
theorem civil_of_atMidnight {d : Date} {m : Instant} (h : atMidnight d = .ok m) :
    m.secs = d.dayNumber * secsPerDay ∧ m.nanos = 0 ∧ m.civil.date = d ∧ m.secondOfDay = 0 := by
  obtain ⟨n, hn, hsecs, hnanos⟩ := atMidnight_eq_ok_iff.1 h
  obtain ⟨hvalid, -, rfl⟩ := Date.dayNumber?_eq_ok_iff.1 hn
  have hday : m.dayNumber = d.dayNumber := by
    rw [dayNumber, hsecs]
    exact Int.mul_ediv_cancel _ (by decide)
  have hdate : m.civil.date = Date.ofDayNumber m.dayNumber := rfl
  refine ⟨hsecs, hnanos, ?_, ?_⟩
  · rw [hdate, hday, Date.ofDayNumber_dayNumber hvalid]
  · rw [secondOfDay, hsecs, Int.mul_emod_left]
    rfl

/-- The beginning of an instant's day, in seconds. -/
theorem dayNumber_mul_secsPerDay (t : Instant) :
    t.dayNumber * secsPerDay = t.secs - t.secs % 86400 := by
  simp only [dayNumber, secsPerDay]
  omega

/-- The date of an instant has a beginning unless it is the first date of all, which begins before
the range. -/
theorem fits_dayNumber_iff (t : Instant) :
    FitsInt64 (t.dayNumber * secsPerDay) ↔ -9223372036854775808 ≤ t.secs - t.secs % 86400 := by
  have hfits := t.secs_fits
  rw [dayNumber_mul_secsPerDay]
  unfold FitsInt64 at *
  omega

/-- The beginning of a day that the date of an instant shows is not later than the instant. -/
theorem atMidnight_civil_le {m t : Instant} (h : atMidnight t.civil.date = .ok m) :
    m.unixNanos ≤ t.unixNanos ∧ t.secs - m.secs = t.secs % 86400 := by
  obtain ⟨hsecs, hnanos, -, -⟩ := civil_of_atMidnight h
  rw [dayNumber_civil, dayNumber_mul_secsPerDay] at hsecs
  simp only [unixNanos, nanosPerSec, hnanos]
  omega

/-- Midnights are exact, and they round instants down to their day.

* A date that exists has a beginning exactly when 86400 seconds for each day up to it from 1970-01-01
  fit in 64 bits.  The beginning has these seconds, and its civil time is the date at 00:00:00.
  Otherwise it is the range that is reported, not the date.
* The date of an instant begins at its seconds rounded down to a whole day, unless these are less
  than the least number of 64 bits, which is reported. -/
theorem atMidnight_rounds_down :
    (∀ (d : Date) (n : Int), d.Valid → d.DaysSinceEpoch n →
      ((∃ m, atMidnight d = .ok m) ↔ FitsInt64 (86400 * n)) ∧
      (∀ m, atMidnight d = .ok m → (m.secs = 86400 * n ∧ m.nanos = 0) ∧ m.civil.date = d ∧
        m.civil.hour = 0 ∧ m.civil.minute = 0 ∧ m.civil.second = 0 ∧ m.civil.nanosecond = 0) ∧
      (¬ FitsInt64 (86400 * n) → ∃ quantity, atMidnight d = .error (.outOfRange quantity))) ∧
    ∀ t : Instant,
      (-9223372036854775808 ≤ t.secs - t.secs % 86400 →
        ∃ m, atMidnight t.civil.date = .ok m ∧ compare m t ≠ .gt ∧
          t.secs - m.secs = t.secs % 86400) ∧
      (atMidnight t.civil.date = .error (.outOfRange s!"seconds at {t.civil.date.text}") ↔
        t.secs - t.secs % 86400 < -9223372036854775808) := by
  constructor
  · intro d n hvalid hn
    rw [Date.daysSinceEpoch_iff hvalid] at hn
    have hmul : 86400 * n = d.dayNumber * secsPerDay := by rw [← hn, Int.mul_comm, secsPerDay]
    rw [hmul]
    refine ⟨exists_atMidnight_iff hvalid, fun m hm => ?_, exists_error_of_not_fits hvalid⟩
    obtain ⟨hsecs, hnanos, hdate, hclock⟩ := civil_of_atMidnight hm
    refine ⟨⟨hsecs, hnanos⟩, hdate, ?_⟩
    simp only [civil, hclock, hnanos]
    decide
  · intro t
    have hiff := exists_atMidnight_iff t.valid_civil
    rw [dayNumber_civil, fits_dayNumber_iff] at hiff
    refine ⟨fun hfits => ?_, fun herror => ?_, fun hlow => ?_⟩
    · obtain ⟨m, hm⟩ := hiff.2 hfits
      obtain ⟨hle, hsub⟩ := atMidnight_civil_le hm
      exact ⟨m, hm, compare_ne_gt_iff.2 hle, hsub⟩
    · refine Int.not_le.1 fun hfits => ?_
      obtain ⟨m, hm⟩ := hiff.2 hfits
      rw [herror] at hm
      contradiction
    · refine atMidnight_of_not_fits t.dayNumber?_civil fun hfits => ?_
      have := (fits_dayNumber_iff t).1 hfits
      omega

/-- An instant of the first second of all, which does not begin a day. -/
def inFirstSecond : Instant := ⟨-9223372036854775808, 500000000, by decide, by decide⟩

/-- The last midnight in range is that of 4 December of the last year; one date later there is none,
and none before the first second. -/
theorem atMidnight_rounds_down_at_ends :
    Date.Valid ⟨292277026596, 12, 4⟩ ∧ Date.DaysSinceEpoch ⟨292277026596, 12, 4⟩ 106751991167300 ∧
      (∃ m, atMidnight ⟨292277026596, 12, 4⟩ = .ok m ∧ m.secs = 9223372036854720000 ∧
        m.civil.date = ⟨292277026596, 12, 4⟩) ∧
      (∃ quantity, atMidnight ⟨292277026596, 12, 5⟩ = .error (.outOfRange quantity)) ∧
      atMidnight inFirstSecond.civil.date =
        .error (.outOfRange s!"seconds at {inFirstSecond.civil.date.text}") ∧
      ∃ m, atMidnight beforeEpoch.civil.date = .ok m ∧ compare m beforeEpoch ≠ .gt ∧
        beforeEpoch.secs - m.secs = 86399 := by
  obtain ⟨hdates, hinstants⟩ := atMidnight_rounds_down
  have hlast : Date.Valid ⟨292277026596, 12, 4⟩ := by decide
  have hnext : Date.Valid ⟨292277026596, 12, 5⟩ := by decide
  have hdays : Date.DaysSinceEpoch ⟨292277026596, 12, 4⟩ 106751991167300 :=
    (Date.daysSinceEpoch_iff hlast).2 (by decide +kernel)
  have hdays' : Date.DaysSinceEpoch ⟨292277026596, 12, 5⟩ 106751991167301 :=
    (Date.daysSinceEpoch_iff hnext).2 (by decide +kernel)
  obtain ⟨hok, hcivil, -⟩ := hdates _ _ hlast hdays
  obtain ⟨m, hm⟩ := hok.2 (by decide)
  obtain ⟨⟨hsecs, -⟩, hdate, -⟩ := hcivil m hm
  refine ⟨hlast, hdays, ⟨m, hm, hsecs, hdate⟩, (hdates _ _ hnext hdays').2.2 (by decide),
    (hinstants inFirstSecond).2.2 (by decide), (hinstants beforeEpoch).1 (by decide)⟩

end Almanac.Instant
