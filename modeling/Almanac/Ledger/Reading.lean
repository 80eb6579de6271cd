import Almanac.Ledger.Entry
import Almanac.Ledger.Error

/-!
# Almanac.Ledger.Reading

Reading a ledger from a stream of bytes:

1. the bytes are cut after each newline, which leaves finished lines and an unfinished rest;
2. a finished line must be UTF-8, must not end in a carriage return and must hold an entry;
3. the first line that does not is reported with its number, counted from 1;
4. a stream that failed reports its failure once the finished lines are read;
5. a stream that ended must have an empty rest: a rest that is not UTF-8 is no text, any other one
   lacks its newline.
-/

namespace Almanac

/-- A stream of bytes to read: what it delivers, and how it fails if it does not simply end. -/
structure Source where
  bytes : ByteArray
  failure : Option Failure := none

namespace Ledger

/-- The byte that ends a line. -/
def newline : UInt8 := 10

/-! ## lines -/

/-- Cuts bytes after each newline, below lines that were cut off before and the reversed beginning
of the current line. -/
def cutLinesOnto (done : Array (List UInt8)) (current : List UInt8) :
    List UInt8 → List (List UInt8) × List UInt8
  | [] => (done.toList, current.reverse)
  | b :: rest =>
    if b = newline then cutLinesOnto (done.push current.reverse) [] rest
    else cutLinesOnto done (b :: current) rest

/-- The finished lines without their newlines, and the rest after the last newline. -/
def cutLines (bytes : List UInt8) : List (List UInt8) × List UInt8 := cutLinesOnto #[] [] bytes

/-- The text of bytes. -/
def text (bytes : List UInt8) : Except LedgerError String :=
  match String.fromUTF8? bytes.toByteArray with
  | some s => .ok s
  | none => .error (.readFailed .notText)

/-- The fault of a line with a number. -/
def faultAt (line : Nat) (fault : LineFault) : LedgerError := .malformedLine line fault.message

/-- Reads the finished line with a number. -/
def readLine (line : Nat) (bytes : List UInt8) : Except LedgerError Entry := do
  let s ← text bytes
  if s.toList.getLast? = some '\r' then throw (faultAt line .carriageReturn)
  (Entry.ofLine s).mapError (faultAt line)

/-- Reads finished lines, the first of which has the number `line`. -/
def readLines (line : Nat) (lines : List (List UInt8)) : Except LedgerError (List Entry) :=
  (lines.zipIdx line).mapM fun (bytes, number) => readLine number bytes

/-! ## streams -/

/-- Checks that nothing follows the last finished line, when the next one has the number `line`. -/
def readRest (line : Nat) (rest : List UInt8) : Option Failure → Except LedgerError Unit
  | some failure => .error (.readFailed failure)
  | none => do
    let s ← text rest
    if s.isEmpty then pure () else throw (faultAt line .unfinished)

/-- Reads all entries of a stream. -/
def read (source : Source) : Except LedgerError (List Entry) := do
  let (lines, rest) := cutLines source.bytes.data.toList
  let entries ← readLines 1 lines
  readRest (lines.length + 1) rest source.failure
  pure entries

end Ledger

end Almanac
