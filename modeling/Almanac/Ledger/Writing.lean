import Almanac.Ledger.Entry
import Almanac.Ledger.Schedule

/-!
# Almanac.Ledger.Writing

Ledgers are written line by line into a sink of bytes.  A sink may have a limited room: it takes
what fits of the bytes that are offered, and fails when something is left over.  It may also fail
when it is flushed, after the last line.

* `Ledger.entries` are the entries of a schedule;
* `Ledger.write` writes them and hands out a receipt.
-/

namespace Almanac

/-! ## sinks -/

/-- A stream that bytes are written into. -/
structure Sink where
  /-- The bytes that were taken. -/
  accepted : ByteArray := .empty
  /-- How many more bytes fit; `none` stands for any number. -/
  room : Option Nat := none
  /-- The failure to take more bytes than fit. -/
  whenFull : Failure := .other "no space"
  /-- The failure to flush, if flushing fails. -/
  whenFlushed : Option Failure := none

namespace Sink

/-- Offers bytes.  A sink that is too small takes the ones in front and fails. -/
def push (s : Sink) (bytes : ByteArray) : Except Failure Unit × Sink :=
  match s.room with
  | none => (.ok (), { s with accepted := s.accepted ++ bytes })
  | some room =>
    if bytes.size ≤ room then
      (.ok (), { s with accepted := s.accepted ++ bytes, room := some (room - bytes.size) })
    else
      (.error s.whenFull, { s with accepted := s.accepted ++ bytes.extract 0 room, room := some 0 })

/-- Hands on all bytes that were taken. -/
def flush (s : Sink) : Except Failure Unit :=
  match s.whenFlushed with
  | none => .ok ()
  | some failure => .error failure

/-- The text of bytes that may end inside of a character, of which at most three bytes are there. -/
def wholeText (bytes : ByteArray) : String :=
  let cut (n : Nat) : Option String := String.fromUTF8? (bytes.extract 0 (bytes.size - n))
  ((List.range 4).findSome? cut).getD ""

/-- Offers a text to an empty sink that takes `room` bytes: whether it took all of it, and the
whole characters that it took. -/
def takeText (room : Nat) (text : String) : Bool × String :=
  let (result, sink) := push { room := some room } text.toUTF8
  (result.toBool, wholeText sink.accepted)

end Sink

/-! ## ledgers -/

/-- What was written: the number of entries, the first and the last. -/
structure Receipt where
  count : Nat := 0
  first : Option Entry := none
  last : Option Entry := none
deriving DecidableEq

/-- The receipt after one more entry. -/
def Receipt.add (r : Receipt) (e : Entry) : Receipt := ⟨r.count + 1, r.first <|> some e, some e⟩

namespace Ledger

/-- The entries of a schedule, in order. -/
def entries (s : Schedule) : Except LedgerError (List Entry) := do
  pure ((← s.run).instants.map Entry.ofInstant)

/-- Writes the entries of a run, on top of what the receipt names, and flushes the sink. -/
def writeRun (receipt : Receipt) (run : Stepping) (sink : Sink) :
    Except LedgerError Receipt × Sink :=
  match _h : run.due with
  | none => (sink.flush.map (fun _ => receipt) |>.mapError .writeFailed, sink)
  | some t =>
    if t.year < run.stopYear then
      match sink.push (Entry.ofInstant t).bytes with
      | (.error failure, sink) => (.error (.writeFailed failure), sink)
      | (.ok (), sink) => writeRun (receipt.add (Entry.ofInstant t)) (run.after t) sink
    else (sink.flush.map (fun _ => receipt) |>.mapError .writeFailed, sink)
termination_by run.budget
decreasing_by exact Stepping.budget_after_lt ‹_›

/-- Writes the entries of a schedule.  Nothing is written for a schedule that does not pass its
check, and nothing after the first failure of the sink. -/
def write (s : Schedule) (sink : Sink) : Except LedgerError Receipt × Sink :=
  match s.run with
  | .error e => (.error e, sink)
  | .ok run => writeRun {} run sink

end Ledger

end Almanac
