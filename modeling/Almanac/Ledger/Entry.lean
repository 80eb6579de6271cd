import Almanac.Calendar.Stamp
import Almanac.Failure

/-!
# Almanac.Ledger.Entry

One line of a ledger: the seconds since the epoch, a tab, and the RFC 3339 form.

* `Entry.line` writes an entry;
* `Entry.ofLine` reads exactly what `Entry.line` writes, as long as the text after the tab is not
  empty.  The number must be in the form in which it is written: without `+`, superfluous zeros or
  a negative zero.  What stands after the first tab is not looked at here.
-/

namespace Almanac

/-- A number of seconds and the text that stands beside it. -/
@[ext] structure Entry where
  secs : Int
  stamp : String
  secs_fits : FitsInt64 secs

instance : DecidableEq Entry := fun _ _ => decidable_of_iff _ Entry.ext_iff.symm

/-- What is wrong with a line. -/
inductive LineFault
  /-- Nothing separates two columns. -/
  | noTab
  /-- The first column is no signed 64-bit integer. -/
  | notANumber (column : String) (fault : Decimal.Fault)
  /-- The first column is a number in another form than the written one. -/
  | notCanonical (column : String)
  /-- The second column is empty. -/
  | noStamp
  /-- The line is not ended by a newline. -/
  | unfinished
  /-- The newline follows a carriage return. -/
  | carriageReturn
deriving DecidableEq, Repr

/-- The wording of a fault. -/
def LineFault.message : LineFault → String
  | .noTab => "missing tab separator"
  | .notANumber column fault =>
    s!"invalid epoch seconds {Text.quoted column}: {fault.message}"
  | .notCanonical column => s!"non-canonical epoch seconds {Text.quoted column}"
  | .noStamp => "empty timestamp"
  | .unfinished => "missing final newline"
  | .carriageReturn => "carriage return before newline"

namespace Entry

/-- The entry of an instant. -/
def ofInstant (t : Instant) : Entry := ⟨t.secs, t.stamp, t.secs_fits⟩

/-- The entry as text, without the end of the line. -/
def line (e : Entry) : String := toString e.secs ++ "\t" ++ e.stamp

/-- The entry as a line of the file. -/
def bytes (e : Entry) : ByteArray := (e.line ++ "\n").toUTF8

/-- Reads an entry from the text of a line. -/
def ofLine (text : String) : Except LineFault Entry :=
  let columns := text.toList.span (· != '\t')
  let column := String.ofList columns.1
  match columns.2 with
  | [] => .error .noTab
  | _ :: stamp =>
    match h : Decimal.readInt64 columns.1 with
    | .error fault => .error (.notANumber column fault)
    | .ok secs =>
      if toString secs ≠ column then .error (.notCanonical column)
      else if stamp.isEmpty then .error .noStamp
      else .ok ⟨secs, String.ofList stamp, Decimal.fitsInt64_of_readInt64 h⟩

end Entry

end Almanac
