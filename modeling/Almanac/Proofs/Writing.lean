import Almanac.Ledger.Writing
import Almanac.Proofs.Run

/-!
# Almanac.Proofs.Writing

What is written into a sink.

The writer walks along the run of a schedule and pushes one line at a time.  A sink does not notice
how its bytes are cut into pieces (`Sink.push_append`), so the lines can be pushed all at once: a
list of entries is written by pushing the bytes of all of them and flushing the sink
(`Ledger.writeEntries_eq`), and a run is written as the list of its entries (`Ledger.writeRun_eq`).
-/

namespace Almanac

namespace Sink

/-! ## offering bytes -/

variable {s : Sink} {room : Nat} {bytes : ByteArray}

theorem push_of_none (hroom : s.room = none) (bytes : ByteArray) :
    s.push bytes = (.ok (), { s with accepted := s.accepted ++ bytes }) := by
  simp only [push, hroom]

theorem push_of_le (hroom : s.room = some room) (h : bytes.size ≤ room) : s.push bytes =
      (.ok (), { s with accepted := s.accepted ++ bytes, room := some (room - bytes.size) }) := by
  simp only [push, hroom, if_pos h]

theorem push_of_lt (hroom : s.room = some room) (h : room < bytes.size) : s.push bytes =
      (.error s.whenFull,
        { s with accepted := s.accepted ++ bytes.extract 0 room, room := some 0 }) := by
  simp only [push, hroom, if_neg (Nat.not_le.2 h)]

theorem push_empty (s : Sink) : s.push .empty = (.ok (), s) := by
  cases hroom : s.room with
  | none => rw [push_of_none hroom, ByteArray.append_empty]
  | some room =>
      rw [push_of_le hroom (Nat.zero_le _), ByteArray.append_empty, ByteArray.size_empty,
        Nat.sub_zero, ← hroom]

/-- The bytes that fit, of two pieces of which the first one fits. -/
theorem extract_append_of_le {a b : ByteArray} (h : a.size ≤ room) :
    (a ++ b).extract 0 room = a ++ b.extract 0 (room - a.size) := by
  have ha : a.extract 0 room = a := by
    rw [ByteArray.ext_iff, ByteArray.data_extract]
    exact Array.extract_eq_self_of_le h
  rw [ByteArray.extract_append, ha, Nat.zero_sub]

theorem extract_append_of_lt {a b : ByteArray} (h : room < a.size) :
    (a ++ b).extract 0 room = a.extract 0 room := by
  have hb : b.extract (0 - a.size) (room - a.size) = .empty := by
    rw [ByteArray.extract_eq_empty_iff]
    omega
  rw [ByteArray.extract_append, hb, ByteArray.append_empty]

/-- It does not matter whether bytes are offered at once or in two pieces. -/
theorem push_append (s : Sink) (a b : ByteArray) :
    s.push (a ++ b) = match s.push a with
      | (.error failure, taken) => (.error failure, taken)
      | (.ok (), taken) => taken.push b := by
  cases hroom : s.room with
  | none =>
      have hb := push_of_none (s := { s with accepted := s.accepted ++ a }) hroom b
      rw [push_of_none hroom, push_of_none hroom, ← ByteArray.append_assoc]
      exact hb.symm
  | some room =>
      by_cases ha : a.size ≤ room
      · have hsize : (a ++ b).size ≤ room ↔ b.size ≤ room - a.size := by
          rw [ByteArray.size_append]
          omega
        rw [push_of_le hroom ha]
        by_cases hb : b.size ≤ room - a.size
        · rw [push_of_le hroom (hsize.2 hb)]
          dsimp only
          rw [push_of_le rfl hb, ByteArray.append_assoc, ByteArray.size_append, Nat.sub_sub]
        · rw [push_of_lt hroom (Nat.lt_of_not_le (mt hsize.1 hb)), extract_append_of_le ha]
          dsimp only
          rw [push_of_lt rfl (Nat.lt_of_not_le hb), ByteArray.append_assoc]
      · rw [Nat.not_le] at ha
        rw [push_of_lt hroom ha, push_of_lt hroom (by rw [ByteArray.size_append]; omega),
          extract_append_of_lt ha]

/-- A sink that takes all bytes and hands them on. -/
structure Unlimited (s : Sink) : Prop where
  room_eq : s.room = none
  whenFlushed_eq : s.whenFlushed = none

end Sink

namespace Ledger

/-! ## entries -/

/-- Writes entries, on top of what the receipt names, and flushes the sink. -/
def writeEntries (receipt : Receipt) : List Entry → Sink → Except LedgerError Receipt × Sink
  | [], sink => (sink.flush.map (fun _ => receipt) |>.mapError .writeFailed, sink)
  | e :: es, sink =>
    match sink.push e.bytes with
    | (.error failure, sink) => (.error (.writeFailed failure), sink)
    | (.ok (), sink) => writeEntries (receipt.add e) es sink

/-- A run is written as the list of its entries. -/
theorem writeRun_eq (receipt : Receipt) (run : Stepping) (sink : Sink) :
    writeRun receipt run sink = writeEntries receipt (run.instants.map Entry.ofInstant) sink := by
  fun_induction writeRun receipt run sink with
  | case1 receipt run sink h =>
      rw [Stepping.instants_of_none h]
      rfl
  | case2 receipt run sink t h hy failure sink' hpush =>
      rw [Stepping.instants_of_lt h hy]
      simp only [List.map_cons, writeEntries, hpush]
  | case3 receipt run sink t h hy sink' hpush ih =>
      rw [Stepping.instants_of_lt h hy]
      simp only [List.map_cons, writeEntries, hpush, ih]
  | case4 receipt run sink t h hy =>
      rw [Stepping.instants_of_le h (Int.not_lt.1 hy)]
      rfl

/-- The bytes of entries. -/
def joinBytes (es : List Entry) : ByteArray :=
  (es.flatMap fun e => e.bytes.data.toList).toByteArray

theorem toList_joinBytes (es : List Entry) :
    (joinBytes es).data.toList = es.flatMap fun e => e.bytes.data.toList :=
  List.toList_data_toByteArray

theorem joinBytes_cons (e : Entry) (es : List Entry) :
    joinBytes (e :: es) = e.bytes ++ joinBytes es := by
  rw [ByteArray.ext_iff, ← Array.toList_inj, ByteArray.data_append, Array.toList_append,
    toList_joinBytes, toList_joinBytes, List.flatMap_cons]

/-- Entries are written by pushing the bytes of all of them and flushing the sink. -/
theorem writeEntries_eq (receipt : Receipt) (es : List Entry) (sink : Sink) :
    writeEntries receipt es sink = match sink.push (joinBytes es) with
      | (.error failure, taken) => (.error (.writeFailed failure), taken)
      | (.ok (), taken) =>
        (taken.flush.map (fun _ => es.foldl Receipt.add receipt) |>.mapError .writeFailed,
          taken) := by
  induction es generalizing receipt sink with
  | nil =>
      have hempty : joinBytes [] = .empty := rfl
      rw [hempty, Sink.push_empty]
      rfl
  | cons e es ih =>
      rw [joinBytes_cons, Sink.push_append, writeEntries]
      cases hpush : sink.push e.bytes with
      | mk result taken =>
          cases result with
          | error failure => rfl
          | ok u => exact ih (receipt.add e) taken

end Ledger

end Almanac
