import Almanac.Calendar.Instant

/-!
# Almanac.Calendar.Stepping

A run of instants that are a fixed number of seconds apart.  It ends before the first instant of
the stop year, or with the last instant that can be represented; once it has ended it stays so.

* `Stepping.advance` takes one instant off the run;
* `Stepping.instants` is the whole run as a list, which is finite because the step is positive.
-/

namespace Almanac

/-- What is left of a run: the instant that is due, if there is one, and how it goes on. -/
structure Stepping where
  due : Option Instant
  step : Int
  stopYear : Int
  step_pos : 0 < step

namespace Stepping

/-- A run from `start`; a step of zero or fewer seconds would never reach the stop year. -/
def start (first : Instant) (step stopYear : Int) : Except CalendarError Stepping :=
  if h : 0 < step then .ok ⟨some first, step, stopYear, h⟩ else .error (.stepNotPositive step)

/-- A run with a step of one day. -/
def daily (first : Instant) (stopYear : Int) : Stepping :=
  ⟨some first, secsPerDay, stopYear, by decide⟩

/-- The run after the instant `t`. -/
def after (r : Stepping) (t : Instant) : Stepping := { r with due := t.addSecs? r.step }

/-- Takes the next instant off the run. -/
def advance (r : Stepping) : Option Instant × Stepping :=
  match r.due with
  | none => (none, r)
  | some t => if t.year < r.stopYear then (some t, r.after t) else (none, { r with due := none })

/-! ## the whole run -/

/-- An upper bound on the length of the run: the seconds that are left in range. -/
def budget (r : Stepping) : Nat :=
  match r.due with
  | none => 0
  | some t => (9223372036854775808 - t.secs).toNat

/-- Going on spends some of the budget. -/
theorem budget_after_lt {r : Stepping} {t : Instant} (h : r.due = some t) :
    (r.after t).budget < r.budget := by
  have hp := r.step_pos
  have hf := t.secs_fits
  unfold FitsInt64 at hf
  cases hn : t.addSecs? r.step with
  | none =>
    simp only [budget, after, hn, h]
    omega
  | some u =>
    have hu := (Instant.atSecs?_eq_some_iff.1 hn).1
    have hg := u.secs_fits
    unfold FitsInt64 at hg
    simp only [budget, after, hn, h]
    omega

/-- All instants of the run, in order, behind `taken`. -/
def instantsOnto (taken : Array Instant) (r : Stepping) : Array Instant :=
  match _h : r.due with
  | none => taken
  | some t =>
    if t.year < r.stopYear then instantsOnto (taken.push t) (r.after t) else taken
termination_by r.budget
decreasing_by exact budget_after_lt ‹_›

/-- All instants of the run, in order. -/
def instants (r : Stepping) : List Instant := (instantsOnto #[] r).toList

private theorem toList_instantsOnto (taken : Array Instant) (r : Stepping) :
    (instantsOnto taken r).toList = taken.toList ++ r.instants := by
  have key : ∀ taken : Array Instant, ∀ r : Stepping,
      ∃ ts : List Instant, ∀ more : Array Instant,
        (instantsOnto (more ++ taken) r).toList = more.toList ++ taken.toList ++ ts := by
    intro taken r
    fun_induction instantsOnto taken r with
    | case1 taken r h => exact ⟨[], fun more => by rw [instantsOnto]; grind⟩
    | case2 taken r t h hy ih =>
      obtain ⟨ts, hts⟩ := ih
      refine ⟨t :: ts, fun more => ?_⟩
      rw [instantsOnto]
      grind
    | case3 taken r t h hy => exact ⟨[], fun more => by rw [instantsOnto]; grind⟩
  obtain ⟨ts, hts⟩ := key #[] r
  have h0 := hts #[]
  have h1 := hts taken
  simp_all [instants]

/-- The list of a run is what `advance` takes off it and the list of what is left. -/
theorem instants_eq_advance (r : Stepping) :
    r.instants = match r.advance with
      | (none, _) => []
      | (some t, rest) => t :: rest.instants := by
  rw [instants, instantsOnto]
  unfold advance
  split <;> rename_i h <;> simp only [h]
  split
  · simp [toList_instantsOnto]
  · rfl

/-! ## parts of a run -/

/-- Takes at most `n` instants off the run, in front of which `taken` were taken before. -/
def takeOnto (taken : Array Instant) : Nat → Stepping → Array Instant × Stepping
  | 0, r => (taken, r)
  | n + 1, r =>
    match r.advance with
    | (none, rest) => (taken, rest)
    | (some t, rest) => takeOnto (taken.push t) n rest

/-- The next `n` instants of the run, or all that are left of it, and what follows them. -/
def take (r : Stepping) (n : Nat) : List Instant × Stepping :=
  let (taken, rest) := takeOnto #[] n r
  (taken.toList, rest)

/-- The instant after the next `n`, if the run goes on as long. -/
def skipThenNext (r : Stepping) (n : Nat) : Option Instant × Stepping := (r.take n).2.advance

end Stepping

end Almanac
