import Almanac.Ledger.Writing
import Almanac.Proofs.Schedule

/-!
# Almanac.Proofs.Entries

The entries of a schedule, and their number: the length that is found by a division is the number of
instants that the run yields and of entries that the ledger holds
(`Schedule.length_counts_run`).
-/

namespace Almanac

theorem Entry.secs_ofInstant (t : Instant) : (Entry.ofInstant t).secs = t.secs := rfl

theorem Entry.stamp_ofInstant (t : Instant) : (Entry.ofInstant t).stamp = t.stamp := rfl

namespace Schedule

namespace Spans

variable {s : Schedule} {first stop : Instant}

/-- The entries of the schedule, one for each instant of its run. -/
def entries (h : s.Spans first stop) : List Entry := h.run.instants.map Entry.ofInstant

theorem entries_eq (h : s.Spans first stop) : Ledger.entries s = .ok h.entries := by
  unfold Ledger.entries
  simp only [Outcome.bind_eq_ok_iff, Outcome.pure_eq_ok_iff]
  exact ⟨h.run, h.run_eq, rfl⟩

theorem length_entries (h : s.Spans first stop) : h.entries.length = h.count := by
  rw [entries, List.length_map, h.length_instants]

theorem getElem?_entries (h : s.Spans first stop) (k : Nat) :
    h.entries[k]? = (h.run.nth k).map Entry.ofInstant := by
  rw [entries, List.getElem?_map, Stepping.getElem?_instants]

/-- The first entry is that of the first instant. -/
theorem head?_entries (h : s.Spans first stop) :
    h.entries.head? = some (Entry.ofInstant first) := by
  have hnth : h.run.nth 0 = some first :=
    h.nth_run_eq_some_iff.2 ⟨⟨by simp, rfl⟩, h.count_pos⟩
  rw [List.head?_eq_getElem?, h.getElem?_entries, hnth, Option.map_some]

/-- The last entry is that of the instant as many steps after the first as others are counted. -/
theorem exists_getLast?_entries (h : s.Spans first stop) :
    ∃ last, (last.secs = first.secs + (h.count - 1) * s.stepSecs ∧ last.nanos = first.nanos) ∧
      h.entries.getLast? = some (Entry.ofInstant last) := by
  have hpos := h.count_pos
  obtain ⟨last, hnth⟩ := h.exists_nth_run (k := h.count - 1) (by omega)
  obtain ⟨⟨hsecs, hnanos⟩, -⟩ := h.nth_run_eq_some_iff.1 hnth
  rw [Int.natCast_sub hpos] at hsecs
  refine ⟨last, ⟨hsecs, hnanos⟩, ?_⟩
  rw [List.getLast?_eq_getElem?, h.length_entries, h.getElem?_entries, hnth, Option.map_some]

end Spans

/-- A schedule that passes its check has a length, at least 1, and its run yields exactly that many
instants: the `k`-th one is `k` steps after the first, with the same nanoseconds, and the ledger's
`k`-th entry is the entry of it. -/
theorem length_counts_run {s : Schedule} (h : s.check = .ok ()) :
    ∃ n first run entries,
      (s.length = .ok n ∧ 1 ≤ n) ∧
      s.first = .ok first ∧ s.run = .ok run ∧ Ledger.entries s = .ok entries ∧
      (run.instants.length = n ∧ entries.length = n) ∧
      (∀ k, run.nth k = none ↔ n ≤ k) ∧
      ∀ k, k < n → ∃ t,
        (t.secs = first.secs + k * s.stepSecs ∧ t.nanos = first.nanos) ∧
        run.nth k = some t ∧ run.instants[k]? = some t ∧
        entries[k]? = some (Entry.ofInstant t) := by
  obtain ⟨first, stop, hs⟩ := exists_spans h
  refine ⟨hs.count, first, hs.run, hs.entries, ⟨hs.length_eq, hs.count_pos⟩, hs.first_eq, hs.run_eq,
    hs.entries_eq, ⟨hs.length_instants, hs.length_entries⟩, fun _ => hs.nth_run_eq_none_iff, ?_⟩
  intro k hk
  obtain ⟨t, ht⟩ := hs.exists_nth_run hk
  refine ⟨t, (hs.nth_run_eq_some_iff.1 ht).1, ht, ?_, ?_⟩
  · rw [Stepping.getElem?_instants, ht]
  · rw [hs.getElem?_entries, ht, Option.map_some]

/-- A schedule that begins with the last nanosecond of 1969 and goes on for all of 1970. -/
def aroundEpoch : Schedule := { startNanos := -1, stepSecs := 10000000, spanYears := 2 }

/-- The instants around the epoch are as many as computed. -/
theorem length_counts_run_aroundEpoch :
    aroundEpoch.check = .ok () ∧
      ∃ run, aroundEpoch.run = .ok run ∧ run.instants.length = 4 := by
  have hcheck : aroundEpoch.check = .ok () := by decide +kernel
  have hlength : aroundEpoch.length = .ok 4 := by decide +kernel
  obtain ⟨n, -, run, -, ⟨hn, -⟩, -, hrun, -, ⟨hinstants, -⟩, -⟩ := length_counts_run hcheck
  rw [hlength, Except.ok.injEq] at hn
  exact ⟨hcheck, run, hrun, by rw [hinstants, hn]⟩

end Schedule

end Almanac
