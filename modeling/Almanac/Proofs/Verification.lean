import Almanac.Proofs.Audit
import Almanac.Proofs.Delivery
import Almanac.Proofs.Reading
import Almanac.Proofs.Stamp

/-!
# Almanac.Proofs.Verification

Writing, reading and auditing taken together: for each schedule there is one string of bytes that
is read and passes the audit, and it is what is written for the schedule
(`Ledger.verification_accepts_exactly_written`).

An audit leaves one list of entries, and reading leaves one string of bytes for a list.  The form of
an instant never ends a line, so that the written entries can be read back.
-/

namespace Almanac

/-- The entry of an instant can be read back from its line. -/
theorem Entry.readable_ofInstant (t : Instant) : (Entry.ofInstant t).Readable := by
  have hlast : t.stamp.toList.getLast? = some 'Z' := t.getLast?_stamp
  constructor
  · show t.stamp ≠ ""
    intro hempty
    rw [hempty] at hlast
    contradiction
  · exact t.newline_not_mem_stamp
  · show t.stamp.toList.getLast? ≠ some '\r'
    rw [hlast]
    decide

namespace Schedule.Spans

variable {s : Schedule} {first stop : Instant}

theorem readable_entries (h : s.Spans first stop) : ∀ e ∈ h.entries, e.Readable := by
  intro e he
  obtain ⟨t, -, rfl⟩ := List.mem_map.1 he
  exact Entry.readable_ofInstant t

/-- A sink that never fails takes the bytes of all entries. -/
theorem write_eq (h : s.Spans first stop) {sink : Sink} (hsink : sink.Unlimited) :
    ∃ taken, Ledger.write s sink = (.ok (h.entries.foldl Receipt.add {}), taken) ∧
      taken.accepted = sink.accepted ++ Ledger.joinBytes h.entries := by
  refine ⟨{ sink with accepted := sink.accepted ++ Ledger.joinBytes h.entries }, ?_, rfl⟩
  rw [h.write_eq_push, Sink.push_of_none hsink.room_eq]
  simp only [Sink.flush, hsink.whenFlushed_eq]
  rfl

/-- The bytes of all entries are read to the entries, and no other bytes are. -/
theorem read_eq_ok_iff (h : s.Spans first stop) {b : ByteArray} :
    Ledger.read ⟨b, none⟩ = .ok h.entries ↔ b = Ledger.joinBytes h.entries := by
  rw [ByteArray.ext_iff, ← Array.toList_inj, Ledger.toList_joinBytes]
  constructor
  · intro hread
    exact (Ledger.bytes_of_read hread).1
  · intro hb
    exact Ledger.read_bytes h.readable_entries hb

end Schedule.Spans

namespace Ledger

/-- For a schedule that passes its check, bytes are read and accepted exactly when they are those
that are written for the schedule into any sink that never fails. -/
theorem verification_accepts_exactly_written {s : Schedule} (h : s.check = .ok ()) :
    ∃ written : ByteArray,
      (∀ sink : Sink, sink.room = none → sink.whenFlushed = none →
        ∃ receipt taken, write s sink = (.ok receipt, taken) ∧
          taken.accepted = sink.accepted ++ written) ∧
      ∀ b : ByteArray,
        (∃ report, (read ⟨b, none⟩ >>= audit s) = .ok report) ↔ b = written := by
  obtain ⟨first, stop, hs⟩ := Schedule.exists_spans h
  refine ⟨joinBytes hs.entries, ?_, ?_⟩
  · intro sink hroom hflush
    obtain ⟨taken, hwrite⟩ := hs.write_eq ⟨hroom, hflush⟩
    exact ⟨_, taken, hwrite⟩
  · intro b
    simp only [Outcome.bind_eq_ok_iff, audit_eq_ok_iff hs]
    constructor
    · intro haccept
      obtain ⟨report, es, hread, hes, -⟩ := haccept
      rw [hes] at hread
      exact hs.read_eq_ok_iff.1 hread
    · intro hb
      exact ⟨hs.report, hs.entries, hs.read_eq_ok_iff.2 hb, rfl, rfl⟩

/-- What is written around the epoch is accepted, and nothing else is. -/
theorem verification_accepts_written_aroundEpoch :
    Schedule.aroundEpoch.check = .ok () ∧
      ∃ receipt taken, write Schedule.aroundEpoch {} = (.ok receipt, taken) ∧
        ∀ b : ByteArray, (∃ report, (read ⟨b, none⟩ >>= audit Schedule.aroundEpoch) = .ok report) ↔
          b = taken.accepted := by
  have hcheck : Schedule.aroundEpoch.check = .ok () := by decide +kernel
  obtain ⟨written, hwrite, hread⟩ := verification_accepts_exactly_written hcheck
  obtain ⟨receipt, taken, htaken, haccepted⟩ := hwrite {} rfl rfl
  rw [ByteArray.empty_append] at haccepted
  exact ⟨hcheck, receipt, taken, htaken, haccepted ▸ hread⟩

end Ledger

end Almanac
