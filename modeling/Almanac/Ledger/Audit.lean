import Almanac.Ledger.Entry
import Almanac.Ledger.Schedule

/-!
# Almanac.Ledger.Audit

Comparing entries with a schedule without writing the schedule's own.  A list of entries is
accepted when

1. it is as long as the schedule;
2. its first entry has the seconds of the first instant;
3. beside the seconds of each entry stands the RFC 3339 form of that second, with the nanoseconds
   of the first instant;
4. no entry lies in the stop year or after it;
5. neighbours are one step apart.

`Audit.violations` lists everything that is wrong, in this order (3 and 4 line by line), and
`Audit.verdict` reports all of it at once: the number, and the wording of the first twenty.
-/

namespace Almanac

/-- One way in which entries differ from the schedule.  Lines are counted from 1. -/
inductive Violation
  | wrongLength (expected found : Nat)
  | wrongStart (found expected : Int)
  | wrongStamp (line : Nat) (found expected : String)
  | tooLate (line : Nat) (year stopYear : Int)
  | wrongStep (line : Nat) (found expected : Int)
deriving DecidableEq, Repr

/-- The wording of a violation. -/
def Violation.message : Violation → String
  | .wrongLength expected found => s!"expected {expected} records, found {found}"
  | .wrongStart found expected => s!"first record starts at {found}s, expected {expected}s"
  | .wrongStamp line found expected =>
    s!"line {line}: timestamp {Text.quoted found} != expected {Text.quoted expected}"
  | .tooLate line year stopYear =>
    s!"line {line}: year {year} is not before stop year {stopYear}"
  | .wrongStep line found expected => s!"line {line}: step {found}s != {expected}s"

/-- What is known of entries that were accepted. -/
structure Report where
  count : Nat
  first : Option Int
  last : Option Int
deriving DecidableEq, Repr

namespace Audit

/-! ## the comparisons -/

/-- The instant that an entry names, with the nanoseconds of the first instant. -/
def instantOf (first : Instant) (e : Entry) : Instant :=
  ⟨e.secs, first.nanos, e.secs_fits, first.nanos_lt⟩

/-- The length of the list. -/
def lengthViolations (expected : Nat) (es : List Entry) : List Violation :=
  if es.length = expected then [] else [.wrongLength expected es.length]

/-- The seconds of the first entry. -/
def startViolations (first : Instant) : List Entry → List Violation
  | [] => []
  | e :: _ => if e.secs = first.secs then [] else [.wrongStart e.secs first.secs]

/-- The text and the year of one entry. -/
def entryViolations (first : Instant) (stopYear : Int) (line : Nat) (e : Entry) :
    List Violation :=
  let t := instantOf first e
  let expected := t.stamp
  let year := t.year
  (if e.stamp = expected then [] else [.wrongStamp line e.stamp expected]) ++
    (if year < stopYear then [] else [.tooLate line year stopYear])

/-- The distance between two neighbours, of which the second stands on `line`. -/
def stepViolations (step : Int) (line : Nat) (earlier later : Entry) : List Violation :=
  if later.secs - earlier.secs = step then []
  else [.wrongStep line (later.secs - earlier.secs) step]

/-- Everything that is wrong with a list of entries. -/
def violations (s : Schedule) (expected : Nat) (first : Instant) (stopYear : Int)
    (es : List Entry) : List Violation :=
  lengthViolations expected es ++ startViolations first es ++
    (es.zipIdx 1).flatMap (fun (e, line) => entryViolations first stopYear line e) ++
    ((es.zip es.tail).zipIdx 2).flatMap fun ((earlier, later), line) =>
      stepViolations s.stepSecs line earlier later

/-! ## the verdict -/

/-- The number of violations that are reported in words. -/
def maxDetails : Nat := 20

/-- What is kept of violations while they are collected: their number, and the wordings of the first
ones. -/
structure Collector where
  count : Nat := 0
  kept : List String := []

namespace Collector

/-- Collects one more violation. -/
def push (c : Collector) (v : Violation) : Collector where
  count := c.count + 1
  kept := if c.kept.length < maxDetails then c.kept ++ [v.message] else c.kept

/-- The error of all violations that were collected, if there are any. -/
def finish (c : Collector) : Except LedgerError Unit :=
  if c.count = 0 then .ok ()
  else
    let omitted := c.count - c.kept.length
    .error <| .rejected c.count <| "; ".intercalate c.kept ++
      if 0 < omitted then s!"; ... and {omitted} more" else ""

end Collector

/-- Passes only if nothing is wrong. -/
def verdict (vs : List Violation) : Except LedgerError Unit := (vs.foldl Collector.push {}).finish

end Audit

/-- Compares entries with a schedule. -/
def Ledger.audit (s : Schedule) (es : List Entry) : Except LedgerError Report := do
  s.check
  let first ← s.first
  let stopYear ← s.stopYear
  let expected ← s.length
  Audit.verdict (Audit.violations s expected first stopYear es)
  pure ⟨es.length, es.head?.map (·.secs), es.getLast?.map (·.secs)⟩

end Almanac
