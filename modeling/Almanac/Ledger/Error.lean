import Almanac.Calendar.Error
import Almanac.Failure

/-!
# Almanac.Ledger.Error

What can go wrong with a ledger: its file cannot be opened, a stream fails, a line or the schedule
is malformed, the calendar is left, or the entries are not those of the schedule.

Some errors were caused by another one.  `LedgerError.trail` tells the whole story on one line,
from the error to the last of its causes.
-/

namespace Almanac

/-- Why an operation on a ledger has no result. -/
inductive LedgerError
  /-- The file to write cannot be created or emptied. -/
  | cannotCreate (path : String) (cause : Failure)
  /-- The file to read cannot be opened. -/
  | cannotOpen (path : String) (cause : Failure)
  /-- The stream failed while it was written or flushed. -/
  | writeFailed (cause : Failure)
  /-- The stream failed while it was read. -/
  | readFailed (cause : Failure)
  /-- A line, counted from 1, is not one of a ledger. -/
  | malformedLine (line : Nat) (reason : String)
  /-- The schedule has no entries. -/
  | badSchedule (reason : String)
  /-- The calendar has no result. -/
  | calendar (cause : CalendarError)
  /-- Entries were read but are not those of the schedule. -/
  | rejected (count : Nat) (details : String)
deriving DecidableEq, Repr

namespace LedgerError

/-- The wording of an error, without its causes. -/
def message : LedgerError → String
  | .cannotCreate path _ => s!"cannot create output file {path}"
  | .cannotOpen path _ => s!"cannot open fixture file {path}"
  | .writeFailed _ => "failed to write fixture records"
  | .readFailed _ => "failed to read fixture records"
  | .malformedLine line reason => s!"line {line}: {reason}"
  | .badSchedule reason => s!"invalid fixture spec: {reason}"
  | .calendar cause => s!"calendar error: {cause.message}"
  | .rejected count details => s!"{count} validation error(s): {details}"

/-- The wordings of the causes, the nearest first. -/
def causes : LedgerError → List String
  | .cannotCreate _ cause => [cause.message]
  | .cannotOpen _ cause => [cause.message]
  | .writeFailed cause => [cause.message]
  | .readFailed cause => [cause.message]
  | .calendar cause => [cause.message]
  | .malformedLine .. => []
  | .badSchedule _ => []
  | .rejected .. => []

/-- The error and its causes on one line. -/
def trail (e : LedgerError) : String := ": ".intercalate (e.message :: e.causes)

/-- The structured form of an error. -/
def shape : LedgerError → Shape
  | .cannotCreate path cause =>
    .fields "OutputUnavailable" [("path", .word (Text.quoted path)), ("source", cause.shape)]
  | .cannotOpen path cause =>
    .fields "InputUnavailable" [("path", .word (Text.quoted path)), ("source", cause.shape)]
  | .writeFailed cause => .fields "Write" [("source", cause.shape)]
  | .readFailed cause => .fields "Read" [("source", cause.shape)]
  | .malformedLine line reason =>
    .fields "Parse" [("line", .nat line), ("reason", .word (Text.quoted reason))]
  | .badSchedule reason => .fields "InvalidSpec" [("reason", .word (Text.quoted reason))]
  | .calendar cause => .tuple "Calendar" [cause.shape]
  | .rejected count details =>
    .fields "Validation" [("count", .nat count), ("details", .word (Text.quoted details))]

/-- Lets a calendar operation run as a step of a ledger operation. -/
def ofCalendar (r : Except CalendarError α) : Except LedgerError α := r.mapError .calendar

end LedgerError

end Almanac
