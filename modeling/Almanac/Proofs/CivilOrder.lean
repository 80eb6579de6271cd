import Almanac.Proofs.CivilTime
import Almanac.Proofs.DayCount

/-!
# Almanac.Proofs.CivilOrder

The order of time is the order of the calendar and the clock.  A civil time is compared field by
field (`CivilTime.fields`): year, month, day, hour, minute, second, nanosecond.

* `Date.compare_dayNumber` — later dates have greater day numbers.  The next date is a later one
  (`Date.compare_next`), whatever month, year or era ends, and every later date is reached so;
* `Instant.compare_secs` — on the clock the fields are digits behind the day number, with 24, 60 and
  60 of them (`compare_mul_add`);
* `Instant.order_is_civil_order` — both together, for whole instants.
-/

namespace Almanac

/-! ## numbers -/

theorem compare_natCast (m n : Nat) : compare (m : Int) (n : Int) = compare m n := by
  simp [compare, compareOfLessAndEq]

theorem compare_add_left (k m n : Int) : compare (k + m) (k + n) = compare m n := by
  simp [compare, compareOfLessAndEq]

/-- A smaller number stays smaller when digits are put behind both. -/
theorem mul_add_lt_of_lt {b m n i j : Int} (h : m < n) (hi : 0 ≤ i ∧ i < b) (hj : 0 ≤ j) :
    m * b + i < n * b + j := by
  have hmul : (m + 1) * b ≤ n * b := Int.mul_le_mul_of_nonneg_right h (by omega)
  rw [Int.add_mul, Int.one_mul] at hmul
  omega

/-- Numbers with one more digit are compared by it last. -/
theorem compare_mul_add {b m n i j : Int} (hi : 0 ≤ i ∧ i < b) (hj : 0 ≤ j ∧ j < b) :
    compare (m * b + i) (n * b + j) = (compare m n).then (compare i j) := by
  obtain h | h | h := Int.lt_trichotomy m n
  · have hlt := mul_add_lt_of_lt h hi hj.1
    simp [Int.compare_eq_lt.2 h, Int.compare_eq_lt.2 hlt]
  · simp [h, compare_add_left]
  · have hlt := mul_add_lt_of_lt h hj hi.1
    simp [Int.compare_eq_gt.2 h, Int.compare_eq_gt.2 hlt]

/-! ## dates -/

namespace Date

/-- What dates are compared by, in this order. -/
def fields (d : Date) : List Int := [d.year, d.month, d.day]

/-- The next date is a later one. -/
theorem compare_next (d : Date) : compare d.fields d.next.fields = .lt := by
  have hlt (n : Int) : compare n (n + 1) = .lt := Int.compare_eq_lt.2 (by omega)
  unfold next
  split
  · simp [fields, List.compare_cons_cons, hlt]
  · split
    · simp [fields, List.compare_cons_cons, hlt]
    · simp [fields, List.compare_cons_cons, hlt]

/-- Going on from date to date leads to later dates only. -/
theorem compare_iterate_next (d : Date) (k : Nat) :
    compare d.fields (next^[k + 1] d).fields = .lt := by
  induction k with
  | zero => exact compare_next d
  | succ k ih =>
      rw [Function.iterate_succ_apply']
      exact Std.TransCmp.lt_trans ih (compare_next _)

theorem compare_fields_of_lt {d e : Date} (hd : d.Valid) (he : e.Valid)
    (h : d.dayNumber < e.dayNumber) : compare d.fields e.fields = .lt := by
  obtain ⟨k, hk⟩ := Int.lt.dest h
  obtain ⟨hvalid, hnumber⟩ := dayNumber_iterate_next hd (k + 1)
  have heq : next^[k + 1] d = e := (dayNumber_inj hvalid he).1 (hnumber.trans hk)
  rw [← heq]
  exact compare_iterate_next d k

/-- Dates are ordered as their day numbers. -/
theorem compare_dayNumber {d e : Date} (hd : d.Valid) (he : e.Valid) :
    compare d.dayNumber e.dayNumber = compare d.fields e.fields := by
  obtain h | h | h := Int.lt_trichotomy d.dayNumber e.dayNumber
  · rw [Int.compare_eq_lt.2 h, compare_fields_of_lt hd he h]
  · rw [(dayNumber_inj hd he).1 h]
    simp
  · rw [Int.compare_eq_gt.2 h, Std.OrientedCmp.gt_of_lt (compare_fields_of_lt he hd h)]

end Date

/-! ## instants -/

/-- What civil times are compared by, in this order. -/
def CivilTime.fields (c : CivilTime) : List Int :=
  [c.date.year, c.date.month, c.date.day, c.hour, c.minute, c.second, c.nanosecond]

namespace Instant

theorem compare_def (t u : Instant) :
    compare t u = (compare t.secs u.secs).then (compare t.nanos u.nanos) := rfl

/-- Instants that no comparison tells apart are the same. -/
theorem compare_eq_eq_iff {t u : Instant} : compare t u = .eq ↔ t = u := by
  simp [compare_def, Instant.ext_iff, Ordering.then_eq_eq]

/-- An instant that is not later has no more seconds. -/
theorem secs_le_of_compare {t u : Instant} (h : compare t u ≠ .gt) : t.secs ≤ u.secs := by
  by_contra hlt
  have hgt : compare t.secs u.secs = .gt := Int.compare_eq_gt.2 (by omega)
  simp [compare_def, hgt] at h

/-- The seconds, with the hour, the minute and the second as digits behind the day number. -/
theorem secs_eq_digits (t : Instant) :
    t.secs = ((t.dayNumber * 24 + t.civil.hour) * 60 + t.civil.minute) * 60 + t.civil.second := by
  rw [t.secs_eq_dayNumber, secondOfDay_eq_civil]
  omega

/-- Seconds are compared by the day, and on the same day by the clock. -/
theorem compare_secs (t u : Instant) :
    compare t.secs u.secs =
      (compare t.dayNumber u.dayNumber).then
        ((compare (t.civil.hour : Int) u.civil.hour).then
          ((compare (t.civil.minute : Int) u.civil.minute).then
            (compare (t.civil.second : Int) u.civil.second))) := by
  have ht := t.civil_time_lt
  have hu := u.civil_time_lt
  rw [t.secs_eq_digits, u.secs_eq_digits, compare_mul_add (by omega) (by omega),
    compare_mul_add (by omega) (by omega), compare_mul_add (by omega) (by omega),
    Ordering.then_assoc, Ordering.then_assoc]

theorem compare_civil (t u : Instant) : compare t u = compare t.civil.fields u.civil.fields := by
  have hdate : compare t.dayNumber u.dayNumber =
      compare t.civil.date.fields u.civil.date.fields := by
    rw [← t.dayNumber_civil, ← u.dayNumber_civil,
      Date.compare_dayNumber t.valid_civil u.valid_civil]
  have hnanos : compare t.nanos u.nanos =
      compare (t.civil.nanosecond : Int) u.civil.nanosecond :=
    (compare_natCast t.nanos u.nanos).symm
  rw [compare_def, compare_secs, hdate, hnanos]
  simp [CivilTime.fields, Date.fields, List.compare_cons_cons, Ordering.then_assoc]

/-- Instants are ordered as their civil times, field by field.  So the year never goes back, and no
two instants have the same civil time. -/
theorem order_is_civil_order (t u : Instant) :
    compare t u = compare t.civil.fields u.civil.fields ∧
      (compare t u ≠ .gt → t.year ≤ u.year) ∧ (t.civil = u.civil → t = u) := by
  refine ⟨compare_civil t u, fun h => year_mono (secs_le_of_compare h), fun h => ?_⟩
  rw [← compare_eq_eq_iff, compare_civil, h]
  simp

/-- The last nanosecond before 1970. -/
def beforeEpoch : Instant := ⟨-1, 999999999, by decide, by decide⟩

/-- From the last nanosecond of 1969 to the first one of 1970 every field changes. -/
theorem order_is_civil_order_at_epoch :
    compare beforeEpoch epoch ≠ .gt ∧
      beforeEpoch.civil.fields = [1969, 12, 31, 23, 59, 59, 999999999] ∧
      epoch.civil.fields = [1970, 1, 1, 0, 0, 0, 0] ∧ beforeEpoch.year ≤ epoch.year := by
  have horder : compare beforeEpoch epoch ≠ .gt := by decide
  have hyear := (order_is_civil_order beforeEpoch epoch).2.1 horder
  exact ⟨horder, by decide +kernel, by decide +kernel, hyear⟩

end Instant

end Almanac
