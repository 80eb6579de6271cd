import Almanac.Ledger.Schedule
import Almanac.Proofs.Run

/-!
# Almanac.Proofs.Schedule

What a schedule that passes its check describes, and how long its run is.

`Schedule.Spans` collects everything that the check establishes; the rest is read off it.  The run
compares the year of each instant with the stop year, and `Schedule.length` divides the seconds up
to the beginning of that year by the step.  Both decide for the `k`-th instant whether `k` steps
stay before that beginning (`nth_run_eq_some_iff`, `lt_stepsBefore_iff`), so they agree.  The last
representable instant never cuts the run short, because the beginning of the stop year is one that
can be represented.
-/

namespace Almanac.Schedule

/-! ## the check -/

/-- A schedule begins with the instant `first` and ends before the instant `stop`, which is the
beginning of its stop year. -/
structure Spans (s : Schedule) (first stop : Instant) : Prop where
  step_pos : 0 < s.stepSecs
  span_pos : 0 < s.spanYears
  first_eq : s.first = .ok first
  stopYear_eq : s.stopYear = .ok (first.year + s.spanYears)
  stop_eq : s.stop = .ok stop
  stop_secs : stop.secs = Instant.newYearSecs (first.year + s.spanYears)

theorem stopYear_eq_ok_iff {s : Schedule} {year : Int} :
    s.stopYear = .ok year ↔
      ∃ first, s.first = .ok first ∧ FitsInt64 year ∧ first.year + s.spanYears = year := by
  unfold stopYear
  simp only [Outcome.bind_eq_ok_iff, Outcome.require_eq_ok_iff, Outcome.pure_eq_ok_iff]
  constructor
  · intro h
    obtain ⟨first, hfirst, hfit, heq⟩ := h
    exact ⟨first, hfirst, heq ▸ hfit, heq⟩
  · intro h
    obtain ⟨first, hfirst, hfit, heq⟩ := h
    exact ⟨first, hfirst, heq ▸ hfit, heq⟩

theorem stop_eq_ok_iff {s : Schedule} {stop : Instant} :
    s.stop = .ok stop ↔
      ∃ year, s.stopYear = .ok year ∧ Instant.atMidnight ⟨year, 1, 1⟩ = .ok stop := by
  unfold Schedule.stop
  simp only [Outcome.bind_eq_ok_iff, Outcome.ofCalendar_eq_ok_iff]

/-- What the check demands. -/
theorem check_eq_ok_iff {s : Schedule} :
    s.check = .ok () ↔ 0 < s.stepSecs ∧ 0 < s.spanYears ∧ ∃ stop, s.stop = .ok stop := by
  unfold check
  simp only [Outcome.guard_eq_ok_iff, Outcome.bind_eq_ok_iff, Outcome.pure_eq_ok_iff, Int.not_le,
    Nat.pos_iff_ne_zero]
  simp

/-- A schedule that passes its check has a beginning and an end. -/
theorem exists_spans {s : Schedule} (h : s.check = .ok ()) : ∃ first stop, s.Spans first stop := by
  obtain ⟨hstep, hspan, stop, hstop⟩ := check_eq_ok_iff.1 h
  obtain ⟨year, hyear, hmid⟩ := stop_eq_ok_iff.1 hstop
  obtain ⟨first, hfirst, -, rfl⟩ := stopYear_eq_ok_iff.1 hyear
  exact ⟨first, stop, hstep, hspan, hfirst, hyear, hstop, Instant.secs_of_atMidnight_newYear hmid⟩

/-! ## counting steps -/

/-- The number of steps from 0 on that stay before a bound: the bound divided by the step and
rounded up. -/
def stepsBefore (bound step : Int) : Nat := ((bound + step - 1) / step).toNat

/-- `k` steps stay before the bound when `k` is one of the steps that are counted. -/
theorem lt_stepsBefore_iff {bound step : Int} (h : 0 < step) {k : Nat} :
    k < stepsBefore bound step ↔ k * step < bound := by
  have hdiv : (k : Int) + 1 ≤ (bound + step - 1) / step ↔ (k + 1) * step ≤ bound + step - 1 :=
    Int.le_ediv_iff_mul_le h
  rw [Int.add_mul, Int.one_mul] at hdiv
  unfold stepsBefore
  omega

/-- There are no more steps than the bound has units. -/
theorem stepsBefore_le {bound step : Int} (h : 0 < step) : stepsBefore bound step ≤ bound.toNat := by
  refine Nat.le_of_not_lt fun hlt => ?_
  have hmul := (lt_stepsBefore_iff h).1 hlt
  have hle : (bound.toNat : Int) * 1 ≤ bound.toNat * step :=
    Int.mul_le_mul_of_nonneg_left h (Int.natCast_nonneg _)
  omega

namespace Spans

variable {s : Schedule} {first stop : Instant}

/-- The number of instants of the schedule. -/
def count (_ : s.Spans first stop) : Nat := stepsBefore (stop.secs - first.secs) s.stepSecs

/-- The run of the schedule. -/
def run (h : s.Spans first stop) : Stepping :=
  ⟨some first, s.stepSecs, first.year + s.spanYears, h.step_pos⟩

/-- Before the stop year is before its beginning. -/
theorem year_lt_iff (h : s.Spans first stop) {t : Instant} :
    t.year < first.year + s.spanYears ↔ t.secs < stop.secs := by
  rw [h.stop_secs, ← Int.not_le, Instant.le_year_iff, Int.not_le]

theorem first_lt_stop (h : s.Spans first stop) : first.secs < stop.secs := by
  have := h.span_pos
  exact h.year_lt_iff.1 (by omega)

theorem count_pos (h : s.Spans first stop) : 1 ≤ h.count := by
  have := h.first_lt_stop
  exact (lt_stepsBefore_iff h.step_pos).2 (by simpa using this)

/-! ## the operations -/

theorem check_eq (h : s.Spans first stop) : s.check = .ok () :=
  check_eq_ok_iff.2 ⟨h.step_pos, h.span_pos, stop, h.stop_eq⟩

theorem run_eq (h : s.Spans first stop) : s.run = .ok h.run := by
  unfold Schedule.run
  simp only [Outcome.bind_eq_ok_iff, Outcome.ofCalendar_eq_ok_iff]
  refine ⟨(), h.check_eq, first, h.first_eq, _, h.stopYear_eq, ?_⟩
  rw [Stepping.start, dif_pos h.step_pos]
  rfl

/-- The number that the schedule computes. -/
theorem length_eq (h : s.Spans first stop) : s.length = .ok h.count := by
  have hspan := h.first_lt_stop
  -- A step takes at least a second, so the seconds between two instants bound the count.
  have hfits : FitsNat64 h.count := by
    have hle : h.count ≤ (stop.secs - first.secs).toNat := stepsBefore_le h.step_pos
    have hfirst := first.secs_fits
    have hstop := stop.secs_fits
    unfold FitsInt64 FitsNat64 at *
    omega
  unfold Schedule.length
  simp only [Outcome.bind_eq_ok_iff]
  refine ⟨(), h.check_eq, stop, h.stop_eq, first, h.first_eq, ?_⟩
  rw [if_neg (by omega)]
  exact if_pos hfits

/-! ## the run -/

/-- The `k`-th instant of the run is `k` steps after the first one, for each `k` that is counted. -/
theorem nth_run_eq_some_iff (h : s.Spans first stop) {k : Nat} {t : Instant} :
    h.run.nth k = some t ↔
      (t.secs = first.secs + k * s.stepSecs ∧ t.nanos = first.nanos) ∧ k < h.count := by
  rw [Stepping.nth_eq_some_iff (r := h.run) rfl, count, lt_stepsBefore_iff h.step_pos]
  refine and_congr_right fun ⟨hsecs, _⟩ => ?_
  rw [show h.run.step = s.stepSecs from rfl] at hsecs
  rw [show h.run.stopYear = first.year + s.spanYears from rfl, h.year_lt_iff]
  omega

/-- The run has no instant beyond those that are counted. -/
theorem nth_run_eq_none_iff (h : s.Spans first stop) {k : Nat} :
    h.run.nth k = none ↔ h.count ≤ k := by
  have hend := Stepping.nth_eq_none_iff_of_stop (r := h.run) (k := k) rfl h.stop_secs
  rw [show h.run.step = s.stepSecs from rfl] at hend
  have hlt : k < h.count ↔ k * s.stepSecs < stop.secs - first.secs := lt_stepsBefore_iff h.step_pos
  rw [hend, ← Nat.not_lt, hlt]
  omega

/-- The `k`-th instant exists for each `k` that is counted. -/
theorem exists_nth_run (h : s.Spans first stop) {k : Nat} (hk : k < h.count) :
    ∃ t, h.run.nth k = some t := by
  rw [← Option.ne_none_iff_exists', ne_eq, h.nth_run_eq_none_iff]
  exact Nat.not_le.2 hk

/-- The run is as long as computed. -/
theorem length_instants (h : s.Spans first stop) : h.run.instants.length = h.count :=
  Stepping.length_instants_eq fun _ => h.nth_run_eq_none_iff

end Spans

end Almanac.Schedule
