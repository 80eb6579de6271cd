import Almanac.Ledger.Audit
import Almanac.Proofs.Entries
import Almanac.Proofs.Midnight

/-!
# Almanac.Proofs.ScheduleDomain

Which schedules describe a ledger, and what becomes of the others.

The domain is given in unbounded integers: the step and the span are positive, and the seconds of
the first instant and of the beginning of the stop year fit in 64 bits.  `Schedule.check_eq_ite`
says that the check tests exactly this, and which error it reports for the first test that fails.

Two of the errors that are prepared for on the way cannot occur, because the years of instants are
small beside the range of 64 bits (`Instant.year_bounds`): a span of 32 bits cannot carry the stop
year out of the range (`Schedule.stopYear_of_first`), and 1 January of the stop year has a day
number (`Schedule.dayNumber?_endYear`).

All operations on a schedule check it first, so they share the error
(`Schedule.domain_decides_operations`).
-/

namespace Almanac

namespace Instant

/-! ## years -/

/-- No instant lies before the year of the first one or after that of the last. -/
theorem year_bounds (t : Instant) : -292277022657 ≤ t.year ∧ t.year ≤ 292277026596 := by
  have hfits := t.secs_fits
  have hlow : newYearSecs (-292277022657) ≤ t.secs := by
    have hsecs : newYearSecs (-292277022657) = -9223372036857052800 := by decide +kernel
    unfold FitsInt64 at hfits
    omega
  have hhigh : ¬ newYearSecs 292277026597 ≤ t.secs := by
    have hsecs : newYearSecs 292277026597 = 9223372036857139200 := by decide +kernel
    unfold FitsInt64 at hfits
    omega
  rw [← le_year_iff] at hlow hhigh
  omega

end Instant

namespace Schedule

/-! ## the domain -/

/-- The seconds of the first instant. -/
def firstSecs (s : Schedule) : Int := s.startNanos / 1000000000

/-- The year in which the ledger stops, counted from the year of the first instant. -/
def endYear (s : Schedule) : Int :=
  (Date.ofDayNumber (s.firstSecs / 86400)).year + s.spanYears

/-- The seconds of the beginning of that year. -/
def endSecs (s : Schedule) : Int := Date.dayNumber ⟨s.endYear, 1, 1⟩ * 86400

/-! ## the parts of the check -/

theorem first_of_fits {s : Schedule} (h : FitsInt64 s.firstSecs) :
    ∃ first, s.first = .ok first ∧ first.secs = s.firstSecs := by
  obtain ⟨first, hfirst, hsecs⟩ := Instant.ofUnixNanos_of_fits h
  refine ⟨first, ?_, hsecs⟩
  rw [Schedule.first, hfirst]
  rfl

theorem first_of_not_fits {s : Schedule} (h : ¬ FitsInt64 s.firstSecs) :
    s.first = .error (.calendar (.outOfRange s!"{s.startNanos}ns since epoch")) := by
  rw [Schedule.first, Instant.ofUnixNanos_of_not_fits h]
  rfl

/-- The first instant has the seconds of the schedule. -/
theorem secs_of_first {s : Schedule} {first : Instant} (h : s.first = .ok first) :
    first.secs = s.firstSecs := by
  by_cases hfits : FitsInt64 s.firstSecs
  · obtain ⟨first', hfirst, hsecs⟩ := first_of_fits hfits
    rw [h, Except.ok.injEq] at hfirst
    rw [hfirst, hsecs]
  · rw [first_of_not_fits hfits] at h
    contradiction

theorem endYear_of_first {s : Schedule} {first : Instant} (h : s.first = .ok first) :
    s.endYear = first.year + s.spanYears := by
  rw [endYear, ← secs_of_first h]
  rfl

/-- The stop year is far from the ends of the range. -/
theorem endYear_bounds {s : Schedule} {first : Instant} (h : s.first = .ok first) :
    -292277022657 ≤ s.endYear ∧ s.endYear ≤ 300000000000 := by
  have hyear := first.year_bounds
  have hspan := s.span_fits
  rw [endYear_of_first h]
  unfold FitsNat32 at hspan
  omega

/-- Once there is a first instant there is a stop year. -/
theorem stopYear_of_first {s : Schedule} {first : Instant} (h : s.first = .ok first) :
    s.stopYear = .ok s.endYear := by
  have hbounds := endYear_bounds h
  rw [stopYear_eq_ok_iff]
  refine ⟨first, h, ?_, (endYear_of_first h).symm⟩
  unfold FitsInt64
  omega

/-- 1 January of the stop year has a day number. -/
theorem dayNumber?_endYear {s : Schedule} {first : Instant} (h : s.first = .ok first) :
    (⟨s.endYear, 1, 1⟩ : Date).dayNumber? = .ok (Date.newYear s.endYear) := by
  have hbounds := endYear_bounds h
  have hday : -9223372036854775808 ≤ Date.newYear s.endYear ∧
      Date.newYear s.endYear ≤ Date.lastDayNumber := by
    rw [Date.newYear_eq, Date.marchDays, Date.lastDayNumber]
    omega
  rw [Date.dayNumber?_eq (Date.valid_newYear s.endYear)]
  exact if_pos hday

/-- The end of a schedule with a first instant is a matter of its seconds. -/
theorem stop_of_fits {s : Schedule} {first : Instant} (h : s.first = .ok first)
    (hsecs : FitsInt64 s.endSecs) : ∃ stop, s.stop = .ok stop := by
  obtain ⟨stop, hstop⟩ := Instant.atMidnight_of_fits (dayNumber?_endYear h) hsecs
  exact ⟨stop, stop_eq_ok_iff.2 ⟨_, stopYear_of_first h, hstop⟩⟩

theorem stop_of_not_fits {s : Schedule} {first : Instant} (h : s.first = .ok first)
    (hsecs : ¬ FitsInt64 s.endSecs) :
    s.stop =
      .error (.calendar (.outOfRange s!"seconds at {(⟨s.endYear, 1, 1⟩ : Date).text}")) := by
  rw [Schedule.stop, stopYear_of_first h, Outcome.ok_bind,
    Instant.atMidnight_of_not_fits (dayNumber?_endYear h) hsecs]
  rfl

theorem stopYear_of_first_error {s : Schedule} {e : LedgerError} (h : s.first = .error e) :
    s.stopYear = .error e := by
  rw [stopYear, h, Outcome.error_bind]

theorem stop_of_first_error {s : Schedule} {e : LedgerError} (h : s.first = .error e) :
    s.stop = .error e := by
  rw [Schedule.stop, stopYear_of_first_error h, Outcome.error_bind]

/-! ## the check -/

/-- The check tests the domain, part by part, and reports the first part that does not hold. -/
theorem check_eq_ite (s : Schedule) :
    s.check =
      if s.stepSecs ≤ 0 then
        .error (.badSchedule s!"step_secs must be greater than 0, got {s.stepSecs}")
      else if s.spanYears = 0 then .error (.badSchedule "span_years must be greater than 0")
      else if ¬ FitsInt64 s.firstSecs then
        .error (.calendar (.outOfRange s!"{s.startNanos}ns since epoch"))
      else if ¬ FitsInt64 s.endSecs then
        .error (.calendar (.outOfRange s!"seconds at {(⟨s.endYear, 1, 1⟩ : Date).text}"))
      else .ok () := by
  have hcheck : s.check =
      if s.stepSecs ≤ 0 then
        .error (.badSchedule s!"step_secs must be greater than 0, got {s.stepSecs}")
      else if s.spanYears = 0 then .error (.badSchedule "span_years must be greater than 0")
      else s.stop.map fun _ => () := by
    unfold check
    split
    · rfl
    · split
      · rfl
      · cases s.stop <;> rfl
  rw [hcheck]
  congr 2
  by_cases hfirst : FitsInt64 s.firstSecs
  · obtain ⟨first, hok, -⟩ := first_of_fits hfirst
    rw [if_neg (not_not_intro hfirst)]
    by_cases hend : FitsInt64 s.endSecs
    · obtain ⟨stop, hstop⟩ := stop_of_fits hok hend
      rw [hstop, if_neg (not_not_intro hend)]
      rfl
    · rw [stop_of_not_fits hok hend, if_pos hend]
      rfl
  · rw [stop_of_first_error (first_of_not_fits hfirst), if_pos hfirst]
    rfl

/-- The check passes exactly on the domain. -/
theorem check_eq_ok_iff_fits {s : Schedule} :
    s.check = .ok () ↔
      0 < s.stepSecs ∧ 0 < s.spanYears ∧ FitsInt64 s.firstSecs ∧ FitsInt64 s.endSecs := by
  rw [check_eq_ite, ← Int.not_le, Nat.pos_iff_ne_zero]
  split_ifs <;> simp_all

/-! ## the operations -/

/-- Every operation reports the error of the check, and nothing is written. -/
theorem operations_of_check_error {s : Schedule} {e : LedgerError} (h : s.check = .error e) :
    s.run = .error e ∧ Ledger.entries s = .error e ∧ s.length = .error e ∧
      (∀ sink, Ledger.write s sink = (.error e, sink)) ∧ ∀ es, Ledger.audit s es = .error e := by
  have hrun : s.run = .error e := by rw [Schedule.run, h, Outcome.error_bind]
  refine ⟨hrun, ?_, ?_, fun sink => ?_, fun es => ?_⟩
  · rw [Ledger.entries, hrun, Outcome.error_bind]
  · rw [Schedule.length, h, Outcome.error_bind]
  · simp only [Ledger.write, hrun]
  · rw [Ledger.audit, h, Outcome.error_bind]

/-- A step that is not positive is found by the check, before a run is started with it. -/
theorem check_ne_stepNotPositive (s : Schedule) (step : Int) :
    s.check ≠ .error (.calendar (.stepNotPositive step)) := by
  rw [check_eq_ite]
  split_ifs <;> simp

/-- The check passes exactly when the step and the span are positive and the seconds of the first
instant and of the beginning of the stop year fit.  When it fails, all operations report its error
and nothing is written; when it passes, there are a run, entries and a length.

So a stop year is only missing together with the first instant, a length only together with a
schedule that passes, no ledger is empty, and no run is refused for its step. -/
theorem domain_decides_operations (s : Schedule) :
    (s.check = .ok () ↔
      0 < s.stepSecs ∧ 0 < s.spanYears ∧ FitsInt64 s.firstSecs ∧ FitsInt64 s.endSecs) ∧
    (∀ e, s.check = .error e →
      s.run = .error e ∧ Ledger.entries s = .error e ∧ s.length = .error e ∧
        (∀ sink, Ledger.write s sink = (.error e, sink)) ∧ ∀ es, Ledger.audit s es = .error e) ∧
    (s.check = .ok () → ∃ run entries n,
      s.run = .ok run ∧ Ledger.entries s = .ok entries ∧ s.length = .ok n) ∧
    (∀ e, s.stopYear = .error e → s.first = .error e) ∧
    (∀ e, s.length = .error e → s.check = .error e) ∧
    s.length ≠ .ok 0 ∧
    ∀ step, s.run ≠ .error (.calendar (.stepNotPositive step)) := by
  refine ⟨check_eq_ok_iff_fits, fun e => operations_of_check_error, ?_, ?_, ?_⟩
  · intro h
    obtain ⟨first, stop, hs⟩ := exists_spans h
    exact ⟨hs.run, hs.entries, hs.count, hs.run_eq, hs.entries_eq, hs.length_eq⟩
  · intro e h
    cases hfirst : s.first with
    | error e' =>
        rw [stopYear_of_first_error hfirst, Except.error.injEq] at h
        rw [h]
    | ok first =>
        rw [stopYear_of_first hfirst] at h
        contradiction
  · -- Whether the check passes decides what the length and the run are.
    cases hcheck : s.check with
    | error e =>
        obtain ⟨hrun, -, hlength, -⟩ := operations_of_check_error hcheck
        have hstep := s.check_ne_stepNotPositive
        simp only [hcheck, ne_eq, Except.error.injEq] at hstep
        simp only [hrun, hlength, Except.error.injEq, imp_self, implies_true, ne_eq, reduceCtorEq,
          not_false_eq_true, true_and]
        exact hstep
    | ok u =>
        obtain ⟨first, stop, hs⟩ := exists_spans hcheck
        have hpos := hs.count_pos
        rw [hs.run_eq, hs.length_eq, ne_eq, Except.ok.injEq]
        exact ⟨nofun, by omega, nofun⟩

/-- A schedule whose last year is the last that can be reached. -/
example : ({ startNanos := 9223372036825516799999999999, spanYears := 1 } : Schedule).check =
    .ok () := by
  decide +kernel

end Schedule

end Almanac
