import Almanac.Calendar.Stepping
import Almanac.Ledger.Error

/-!
# Almanac.Ledger.Schedule

A schedule says which instants a ledger holds: the first one, the seconds between two of them,
and the number of calendar years that they cover.  The years are counted from the year of the
first instant, so the last of them is complete and the year after it is the stop year.

* `Schedule.check` says whether a schedule describes a ledger at all;
* `Schedule.run` is the run of its instants;
* `Schedule.length` is their number, found by a division instead of a walk.
-/

namespace Almanac

/-- Which instants a ledger holds. -/
@[ext] structure Schedule where
  /-- The first instant, in nanoseconds since the epoch. -/
  startNanos : Int := 12345678
  /-- The seconds from each instant to the next. -/
  stepSecs : Int := 86400
  /-- The number of calendar years. -/
  spanYears : Nat := 401
  start_fits : FitsInt128 startNanos := by decide
  step_fits : FitsInt64 stepSecs := by decide
  span_fits : FitsNat32 spanYears := by decide

instance : DecidableEq Schedule := fun _ _ => decidable_of_iff _ Schedule.ext_iff.symm

namespace Schedule

/-- The first instant. -/
def first (s : Schedule) : Except LedgerError Instant :=
  LedgerError.ofCalendar (Instant.ofUnixNanos s.startNanos)

/-- The first year that the ledger does not reach. -/
def stopYear (s : Schedule) : Except LedgerError Int := do
  let year := (← s.first).year
  let stop := year + s.spanYears
  if FitsInt64 stop then pure stop
  else throw (.badSchedule s!"stop year overflows: {year} + {s.spanYears}")

/-- The beginning of the stop year. -/
def stop (s : Schedule) : Except LedgerError Instant := do
  LedgerError.ofCalendar (Instant.atMidnight ⟨← s.stopYear, 1, 1⟩)

/-- Refuses a schedule without entries, or one that starts or stops outside of the calendar. -/
def check (s : Schedule) : Except LedgerError Unit := do
  if s.stepSecs ≤ 0 then
    throw (.badSchedule s!"step_secs must be greater than 0, got {s.stepSecs}")
  if s.spanYears = 0 then
    throw (.badSchedule "span_years must be greater than 0")
  let _ ← s.stop

/-- The run of the instants. -/
def run (s : Schedule) : Except LedgerError Stepping := do
  s.check
  LedgerError.ofCalendar (Stepping.start (← s.first) s.stepSecs (← s.stopYear))

/-- The number of instants.  One belongs to the ledger while its whole seconds lie before the
beginning of the stop year, so the time up to there is divided by the step and rounded up. -/
def length (s : Schedule) : Except LedgerError Nat := do
  s.check
  let span := (← s.stop).secs - (← s.first).secs
  if span ≤ 0 then pure 0
  else
    let count := ((span + s.stepSecs - 1) / s.stepSecs).toNat
    if FitsNat64 count then pure count
    else throw (.badSchedule s!"record count {count} does not fit in u64")

/-- The structured form of a schedule. -/
def shape (s : Schedule) : Shape :=
  .fields "FixtureSpec"
    [("start_unix_nanos", .int s.startNanos), ("step_secs", .int s.stepSecs),
      ("span_years", .nat s.spanYears)]

end Schedule

end Almanac
