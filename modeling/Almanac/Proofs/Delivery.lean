import Almanac.Proofs.Entries
import Almanac.Proofs.Utf8
import Almanac.Proofs.Writing

/-!
# Almanac.Proofs.Delivery

What of a ledger reaches a sink that may fail.

The ledger is one string of bytes to the sink, so a sink with limited room takes the front of it,
wherever that ends (`Sink.toList_accepted_push`): of a text, the whole characters that fit and at
most three bytes of the next one (`Sink.takeText_front`).  The receipt names what the walk along the entries
has passed (`Receipt.foldl_add`), and it is handed out only when everything was taken and handed on
(`Ledger.write_into_room`).
-/

namespace Almanac

/-- Going through entries counts them, and meets the first and the last one. -/
theorem Receipt.foldl_add (r : Receipt) (es : List Entry) :
    es.foldl Receipt.add r =
      ⟨r.count + es.length, r.first <|> es.head?, es.getLast? <|> r.last⟩ := by
  induction es generalizing r with
  | nil => simp
  | cons e es ih =>
      rw [List.foldl_cons, ih, add]
      cases r.first <;> simp [List.getLast?_cons, Nat.add_assoc, Nat.add_comm 1]

namespace Sink

variable {s : Sink} {room : Nat}

/-- A sink takes the front of what is offered, as far as it fits. -/
theorem toList_accepted_push (hroom : s.room = some room) (bytes : ByteArray) :
    (s.push bytes).2.accepted.data.toList =
      s.accepted.data.toList ++ bytes.data.toList.take room := by
  by_cases h : bytes.size ≤ room
  · rw [push_of_le hroom h, List.take_of_length_le (by simpa using h)]
    simp
  · rw [push_of_lt hroom (Nat.lt_of_not_le h)]
    simp [List.extract]

theorem whenFlushed_push (s : Sink) (bytes : ByteArray) :
    (s.push bytes).2.whenFlushed = s.whenFlushed := by
  unfold push
  split
  · rfl
  · split <;> rfl

/-! ### texts -/

open Ledger (utf8 fromUTF8?_eq_some_iff exists_take_utf8)

variable {b : ByteArray} {n : Nat} {text : String}

theorem fromUTF8?_extract_eq_some_iff :
    String.fromUTF8? (b.extract 0 n) = some text ↔ b.data.toList.take n = utf8 text := by
  rw [fromUTF8?_eq_some_iff, ByteArray.ext_iff, ← Array.toList_inj, utf8]
  simp [List.extract]

/-- Nothing but the end of bytes is left out of their text. -/
theorem utf8_wholeText_prefix (b : ByteArray) : utf8 (wholeText b) <+: b.data.toList := by
  rw [wholeText]
  cases hcut : (List.range 4).findSome? fun n => String.fromUTF8? (b.extract 0 (b.size - n)) with
  | none => exact List.nil_prefix
  | some text =>
      obtain ⟨n, -, hn⟩ := List.exists_of_findSome?_eq_some hcut
      have htake := List.take_prefix (b.size - n) b.data.toList
      rw [Option.getD_some]
      rwa [fromUTF8?_extract_eq_some_iff.1 hn] at htake

/-- No more than three bytes are left out, if those in front of them are a text. -/
theorem size_le_wholeText (hn : n ≤ 3) (h : b.data.toList.take (b.size - n) = utf8 text) :
    b.size ≤ (utf8 (wholeText b)).length + 3 := by
  rw [← fromUTF8?_extract_eq_some_iff] at h
  rw [wholeText]
  cases hcut : (List.range 4).findSome? fun n => String.fromUTF8? (b.extract 0 (b.size - n)) with
  | none =>
      rw [List.findSome?_eq_none_iff] at hcut
      have hnone := hcut n (List.mem_range.2 (Nat.lt_succ_of_le hn))
      rw [h] at hnone
      contradiction
  | some found =>
      obtain ⟨k, hk, hfound⟩ := List.exists_of_findSome?_eq_some hcut
      have hlength := congrArg List.length (fromUTF8?_extract_eq_some_iff.1 hfound)
      have hsize : b.data.toList.length = b.size := rfl
      rw [List.mem_range] at hk
      rw [List.length_take, hsize] at hlength
      rw [Option.getD_some]
      omega

/-- The front of a text is cut inside of a character at worst. -/
theorem length_take_le_wholeText (h : b.data.toList = (utf8 text).take n) :
    b.data.toList.length ≤ (utf8 (wholeText b)).length + 3 := by
  obtain ⟨front, rest, hfront, hrest⟩ := exists_take_utf8 text n
  rw [← h] at hfront
  have hsize : b.size = (utf8 front).length + rest.length := by
    rw [← List.length_append, ← hfront]
    rfl
  have hcut : b.data.toList.take (b.size - rest.length) = utf8 front := by
    rw [hfront, hsize, Nat.add_sub_cancel, List.take_left]
  exact size_le_wholeText hrest hcut

theorem toBool_push_iff (room : Nat) (text : String) :
    (push { room := some room } text.toUTF8).1.toBool = true ↔ (utf8 text).length ≤ room := by
  have hsize : text.toUTF8.size = (utf8 text).length := rfl
  rw [← hsize]
  by_cases h : text.toUTF8.size ≤ room
  · rw [push_of_le rfl h]
    exact iff_of_true rfl h
  · rw [push_of_lt rfl (Nat.lt_of_not_le h)]
    exact iff_of_false Bool.false_ne_true h

theorem toList_accepted_push_text (room : Nat) (text : String) :
    (push { room := some room } text.toUTF8).2.accepted.data.toList = (utf8 text).take room := by
  rw [toList_accepted_push rfl]
  exact List.nil_append _

/-- A sink with room takes a text as a whole, or else the whole characters at its front that fit:
not more than three bytes of its room are left. -/
theorem takeText_front (room : Nat) (text : String) :
    ((takeText room text).1 = true ↔ (utf8 text).length ≤ room) ∧
      utf8 (takeText room text).2 <+: (utf8 text).take room ∧
      ((utf8 text).take room).length ≤ (utf8 (takeText room text).2).length + 3 := by
  have hresult := toBool_push_iff room text
  have haccepted := toList_accepted_push_text room text
  rw [takeText]
  generalize push { room := some room } text.toUTF8 = p at haccepted hresult
  obtain ⟨result, sink⟩ := p
  dsimp only at haccepted hresult ⊢
  rw [← haccepted]
  exact ⟨hresult, utf8_wholeText_prefix _, length_take_le_wholeText haccepted⟩

end Sink

namespace Schedule.Spans

variable {s : Schedule} {first stop : Instant}

/-- A schedule is written by pushing the bytes of its entries and flushing the sink. -/
theorem write_eq_push (h : s.Spans first stop) (sink : Sink) :
    Ledger.write s sink = match sink.push (Ledger.joinBytes h.entries) with
      | (.error failure, taken) => (.error (.writeFailed failure), taken)
      | (.ok (), taken) =>
        (taken.flush.map (fun _ => h.entries.foldl Receipt.add {}) |>.mapError .writeFailed,
          taken) := by
  simp only [Ledger.write, h.run_eq, Ledger.writeRun_eq]
  exact Ledger.writeEntries_eq {} h.entries sink

/-- The receipt for all entries. -/
theorem exists_receipt (h : s.Spans first stop) :
    ∃ last, (last.secs = first.secs + (h.count - 1) * s.stepSecs ∧ last.nanos = first.nanos) ∧
      h.entries.foldl Receipt.add {} =
        ⟨h.count, some (Entry.ofInstant first), some (Entry.ofInstant last)⟩ := by
  obtain ⟨last, hlast, hget⟩ := h.exists_getLast?_entries
  refine ⟨last, hlast, ?_⟩
  rw [Receipt.foldl_add, h.length_entries, h.head?_entries, hget]
  simp

end Schedule.Spans

namespace Ledger

/-- A sink with limited room takes as much of the lines of a schedule as fits.  If all of it fits
and the flush succeeds, the receipt names the number of entries, the entry of the first instant and
that of the last; otherwise the failure of the sink is reported. -/
theorem write_into_room {s : Schedule} (h : s.check = .ok ()) :
    ∃ n first last generated,
      s.length = .ok n ∧ s.first = .ok first ∧ entries s = .ok generated ∧
      (last.secs = first.secs + (n - 1) * s.stepSecs ∧ last.nanos = first.nanos) ∧
      ∀ (sink : Sink) (room : Nat), sink.room = some room →
        let lines := generated.flatMap fun e => (e.line ++ "\n").toUTF8.data.toList
        (write s sink).2.accepted.data.toList =
          sink.accepted.data.toList ++ lines.take (min room lines.length) ∧
        (write s sink).1 =
          if lines.length ≤ room then
            match sink.whenFlushed with
            | none => .ok ⟨n, some (Entry.ofInstant first), some (Entry.ofInstant last)⟩
            | some failure => .error (.writeFailed failure)
          else .error (.writeFailed sink.whenFull) := by
  obtain ⟨first, stop, hs⟩ := Schedule.exists_spans h
  obtain ⟨last, hlast, hreceipt⟩ := hs.exists_receipt
  refine ⟨hs.count, first, last, hs.entries, hs.length_eq, hs.first_eq, hs.entries_eq, hlast, ?_⟩
  intro sink room hroom lines
  have hlines : (joinBytes hs.entries).data.toList = lines := toList_joinBytes hs.entries
  have hsize : (joinBytes hs.entries).size = lines.length := by rw [← hlines]; rfl
  have htaken := Sink.toList_accepted_push hroom (joinBytes hs.entries)
  have hflush := Sink.whenFlushed_push sink (joinBytes hs.entries)
  rw [hlines] at htaken
  rw [← List.take_eq_take_min, hs.write_eq_push]
  by_cases hle : lines.length ≤ room
  · rw [if_pos hle]
    rw [Sink.push_of_le hroom (hsize ▸ hle)] at htaken hflush ⊢
    refine ⟨htaken, ?_⟩
    simp only [Sink.flush, hreceipt]
    cases sink.whenFlushed <;> rfl
  · rw [if_neg hle]
    rw [Sink.push_of_lt hroom (hsize ▸ Nat.lt_of_not_le hle)] at htaken ⊢
    exact ⟨htaken, rfl⟩

/-- A disk with room for twenty bytes takes the front of the first line around the epoch. -/
theorem write_into_room_aroundEpoch :
    Schedule.aroundEpoch.check = .ok () ∧
      ∃ taken, write Schedule.aroundEpoch { room := some 20, whenFull := .other "disk full" } =
          (.error (.writeFailed (.other "disk full")), taken) ∧
        taken.accepted.data.toList = "-1\t1969-12-31T23:59:".toUTF8.data.toList := by
  have hcheck : Schedule.aroundEpoch.check = .ok () := by decide +kernel
  have hfirst : Schedule.aroundEpoch.first = .ok ⟨-1, 999999999, by decide, by decide⟩ := by
    decide +kernel
  obtain ⟨first, stop, hs⟩ := Schedule.exists_spans hcheck
  obtain ⟨rest, hrest⟩ := List.head?_eq_some_iff.1 hs.head?_entries
  rw [hs.first_eq, Except.ok.injEq] at hfirst
  obtain ⟨_, _, _, generated, -, -, hgenerated, -, hwrite⟩ := write_into_room hcheck
  rw [hs.entries_eq, Except.ok.injEq, hrest, hfirst] at hgenerated
  obtain ⟨haccepted, hresult⟩ :=
    hwrite { room := some 20, whenFull := .other "disk full" } 20 rfl
  rw [← hgenerated, List.flatMap_cons] at haccepted hresult
  generalize hline : ((Entry.ofInstant ⟨-1, 999999999, by decide, by decide⟩).line ++
    "\n").toUTF8.data.toList = line at haccepted hresult
  have hlength : line.length = 34 := by
    rw [← hline]
    decide +kernel
  rw [if_neg (by rw [List.length_append]; omega)] at hresult
  rw [Nat.min_eq_left (by rw [List.length_append]; omega),
    List.take_append_of_le_length (by omega), ← hline] at haccepted
  refine ⟨hcheck, _, Prod.ext hresult rfl, ?_⟩
  rw [haccepted]
  decide +kernel

end Ledger

end Almanac
