import Almanac.Text.Decimal
import Almanac.Text.Quoted
import Almanac.Text.Shape

/-!
# Almanac.Calendar.Error

The ways in which calendar arithmetic fails: a component of a date that does not exist, a step
that does not move forward, and a result that leaves the range of the integers it is stored in.
-/

namespace Almanac

/-- Why a calendar operation has no result. -/
inductive CalendarError
  /-- An ordinal day that the year does not have; `last` is the last one it has. -/
  | noSuchYearDay (yearDay : Nat) (year : Int) (last : Nat)
  /-- A month outside of 1 to 12. -/
  | noSuchMonth (month : Nat)
  /-- A day that the month does not have; `last` is the last one it has. -/
  | noSuchDay (day month : Nat) (year : Int) (last : Nat)
  /-- A step of zero or fewer seconds. -/
  | stepNotPositive (step : Int)
  /-- A result that is out of range; `quantity` names it. -/
  | outOfRange (quantity : String)
deriving DecidableEq, Repr

namespace CalendarError

/-- A year and its month, the month in at least two digits. -/
def yearMonth (year : Int) (month : Nat) : String :=
  toString year ++ "-" ++ String.ofList (Decimal.padded 2 month)

/-- The wording of an error. -/
def message : CalendarError → String
  | .noSuchYearDay yearDay year last =>
    s!"invalid day of year: {yearDay} for year {year} (must be 1..={last})"
  | .noSuchMonth month => s!"invalid month: {month} (must be 1..=12)"
  | .noSuchDay day month year last =>
    s!"invalid day: {day} for {yearMonth year month} (max {last})"
  | .stepNotPositive step => s!"invalid step: {step}s (must be > 0)"
  | .outOfRange quantity => s!"arithmetic overflow: {quantity}"

/-- The structured form of an error. -/
def shape : CalendarError → Shape
  | .noSuchYearDay yearDay year last =>
    .fields "InvalidDoy" [("doy", .nat yearDay), ("year", .int year), ("max_doy", .nat last)]
  | .noSuchMonth month => .fields "InvalidMonth" [("month", .nat month)]
  | .noSuchDay day month year last =>
    .fields "InvalidDay"
      [("day", .nat day), ("month", .nat month), ("year", .int year), ("max_day", .nat last)]
  | .stepNotPositive step => .fields "InvalidStep" [("step_secs", .int step)]
  | .outOfRange quantity => .fields "Overflow" [("reason", .word (Text.quoted quantity))]

end CalendarError

end Almanac
