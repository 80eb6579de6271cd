import Almanac.Proofs.ScheduleDomain
import Almanac.Settings

/-!
# Almanac.Proofs.SettingsDomain

Which settings describe a ledger.

A schedule can start or stop where no instant is (`Schedule.check_eq_ite`), but not the schedule of
settings.  Settings hold the start in 64 bits, and 64 bits of nanoseconds do not lead out of the
years from 1677 to 2262 (`Settings.startYear_bounds`).  A span of 32 bits leads from there to the
year 4294969557 at most, whose beginning is still close to the epoch beside the range of the seconds
(`Settings.fits_endSecs`).  What remains to be refused is a step or a span that is not positive
(`Settings.checkedSchedule_eq_ite`).
-/

namespace Almanac.Settings

variable (s : Settings)

/-! ## bounds -/

/-- The seconds of the start. -/
theorem startSecs_bounds :
    -9223372037 ≤ s.schedule.firstSecs ∧ s.schedule.firstSecs ≤ 9223372036 := by
  have hstart : FitsInt64 s.schedule.startNanos := s.start_fits
  unfold FitsInt64 at hstart
  unfold Schedule.firstSecs
  omega

/-- The year of the start. -/
theorem startYear_bounds :
    1677 ≤ (Date.ofDayNumber (s.schedule.firstSecs / 86400)).year ∧
      (Date.ofDayNumber (s.schedule.firstSecs / 86400)).year ≤ 2262 := by
  have hsecs := s.startSecs_bounds
  have hlow : Date.newYear 1677 ≤ s.schedule.firstSecs / 86400 := by
    have hday : Date.newYear 1677 = -107015 := by decide +kernel
    omega
  have hhigh : ¬ Date.newYear 2263 ≤ s.schedule.firstSecs / 86400 := by
    have hday : Date.newYear 2263 = 107016 := by decide +kernel
    omega
  rw [← Date.le_year_ofDayNumber_iff] at hlow hhigh
  omega

/-- The stop year, after a span of 32 bits. -/
theorem endYear_bounds :
    1677 ≤ s.schedule.endYear ∧ s.schedule.endYear ≤ 4294969557 := by
  have hyear := s.startYear_bounds
  have hspan : FitsNat32 s.schedule.spanYears := s.span_fits
  unfold FitsNat32 at hspan
  unfold Schedule.endYear
  omega

theorem fits_firstSecs : FitsInt64 s.schedule.firstSecs := by
  have hsecs := s.startSecs_bounds
  unfold FitsInt64
  omega

theorem fits_endSecs : FitsInt64 s.schedule.endSecs := by
  have hyear := s.endYear_bounds
  have hday : s.schedule.endSecs = Date.newYear s.schedule.endYear * 86400 := rfl
  rw [hday, Date.newYear_eq, Date.marchDays]
  unfold FitsInt64
  omega

/-! ## the check -/

/-- A step that is not positive is refused, and otherwise a span of no years; nothing else is. -/
theorem checkedSchedule_eq_ite :
    s.checkedSchedule =
      if s.stepSecs ≤ 0 then
        .error (.badSchedule s!"step_secs must be greater than 0, got {s.stepSecs}")
      else if s.spanYears = 0 then .error (.badSchedule "span_years must be greater than 0")
      else .ok s.schedule := by
  have hcheck : s.schedule.check =
      if s.stepSecs ≤ 0 then
        .error (.badSchedule s!"step_secs must be greater than 0, got {s.stepSecs}")
      else if s.spanYears = 0 then .error (.badSchedule "span_years must be greater than 0")
      else .ok () := by
    rw [Schedule.check_eq_ite, if_neg (not_not_intro s.fits_firstSecs),
      if_neg (not_not_intro s.fits_endSecs)]
    rfl
  rw [checkedSchedule, hcheck]
  split_ifs <;> rfl

theorem checkedSchedule_eq_ok_iff {t : Schedule} :
    s.checkedSchedule = .ok t ↔ (0 < s.stepSecs ∧ 0 < s.spanYears) ∧ t = s.schedule := by
  rw [checkedSchedule_eq_ite, ← Int.not_le, Nat.pos_iff_ne_zero]
  split_ifs <;> simp_all [eq_comm]

theorem checkedSchedule_eq_error_iff {e : LedgerError} :
    s.checkedSchedule = .error e ↔
      (s.stepSecs ≤ 0 ∧
        e = .badSchedule s!"step_secs must be greater than 0, got {s.stepSecs}") ∨
      (0 < s.stepSecs ∧ s.spanYears = 0 ∧
        e = .badSchedule "span_years must be greater than 0") := by
  rw [checkedSchedule_eq_ite, ← Int.not_le]
  split_ifs <;> simp_all [eq_comm]

/-- Settings describe a ledger exactly when their step and their span are positive.  Its schedule
has the three numbers of the settings, and a length.  Other settings are refused for their step,
or for their span if the step is positive, and never by the calendar. -/
theorem step_and_span_decide_checkedSchedule :
    ((∃ t, s.checkedSchedule = .ok t) ↔ 0 < s.stepSecs ∧ 0 < s.spanYears) ∧
    (∀ t, s.checkedSchedule = .ok t →
      (t.startNanos = s.startNanos ∧ t.stepSecs = s.stepSecs ∧ t.spanYears = s.spanYears) ∧
        ∃ n, t.length = .ok n) ∧
    (∀ e, s.checkedSchedule = .error e ↔
      (s.stepSecs ≤ 0 ∧
        e = .badSchedule s!"step_secs must be greater than 0, got {s.stepSecs}") ∨
      (0 < s.stepSecs ∧ s.spanYears = 0 ∧
        e = .badSchedule "span_years must be greater than 0")) ∧
    ∀ cause, s.checkedSchedule ≠ .error (.calendar cause) := by
  refine ⟨?_, fun t h => ?_, fun e => s.checkedSchedule_eq_error_iff, fun cause h => ?_⟩
  · simp only [checkedSchedule_eq_ok_iff, exists_and_left, exists_eq, and_true]
  · obtain ⟨⟨hstep, hspan⟩, rfl⟩ := s.checkedSchedule_eq_ok_iff.1 h
    have hcheck : s.schedule.check = .ok () :=
      Schedule.check_eq_ok_iff_fits.2 ⟨hstep, hspan, s.fits_firstSecs, s.fits_endSecs⟩
    obtain ⟨first, stop, hs⟩ := Schedule.exists_spans hcheck
    exact ⟨⟨rfl, rfl, rfl⟩, hs.count, hs.length_eq⟩
  · obtain ⟨-, heq⟩ | ⟨-, -, heq⟩ := s.checkedSchedule_eq_error_iff.1 h
    · contradiction
    · contradiction

/-- The settings that reach farthest. -/
example :
    let s : Settings :=
      { startNanos := 9223372036854775807, stepSecs := 86400000000000, spanYears := 4294967295 }
    s.checkedSchedule.bind Schedule.length = .ok 1569 := by
  decide +kernel

end Almanac.Settings
