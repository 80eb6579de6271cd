/-!
# Almanac.Calendar.Weekday

Days of the week.  Day number 0 is a Thursday, and the week repeats every seven days in both
directions.
-/

namespace Almanac

/-- A day of the week. -/
inductive Weekday
  | sunday
  | monday
  | tuesday
  | wednesday
  | thursday
  | friday
  | saturday
deriving DecidableEq, Repr

namespace Weekday

/-- The weekday at a position of the week, with Sunday at 0. -/
def ofIndex : Nat → Weekday
  | 0 => .sunday
  | 1 => .monday
  | 2 => .tuesday
  | 3 => .wednesday
  | 4 => .thursday
  | 5 => .friday
  | _ => .saturday

/-- The position in the week, with Sunday at 0. -/
def index : Weekday → Nat
  | .sunday => 0
  | .monday => 1
  | .tuesday => 2
  | .wednesday => 3
  | .thursday => 4
  | .friday => 5
  | .saturday => 6

/-- The position in the week is read back. -/
@[simp] theorem ofIndex_index (w : Weekday) : ofIndex w.index = w := by cases w <;> rfl

/-- The weekday of a day number. -/
def ofDayNumber (n : Int) : Weekday := ofIndex ((n % 7 + 4) % 7).toNat

/-- The English name. -/
def name : Weekday → String
  | .sunday => "Sunday"
  | .monday => "Monday"
  | .tuesday => "Tuesday"
  | .wednesday => "Wednesday"
  | .thursday => "Thursday"
  | .friday => "Friday"
  | .saturday => "Saturday"

end Weekday

end Almanac
