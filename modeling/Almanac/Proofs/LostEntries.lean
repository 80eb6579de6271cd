import Almanac.Proofs.Rejection

/-!
# Almanac.Proofs.LostEntries

What an audit says of a ledger from which successive entries were lost.

Behind the gap every entry stands in an earlier place (`getElem?_without`).  It is still an entry of
the schedule, so its text and its year are right, and its neighbours are one step away except over
the gap (`Audit.finds_without_iff`).  Beside the length there is thus at most one more finding:

* the start, if the first entries were lost;
* the step over the gap, if entries are left on both sides of it;
* nothing, if the last entries were lost.
-/

namespace Almanac

namespace Audit

/-! ## the gap -/

section Gap

variable {α : Type} {i k : Nat} {xs : List α}

/-- A list without the `k` elements from place `i` on. -/
def without (i k : Nat) (xs : List α) : List α := xs.take i ++ xs.drop (i + k)

/-- The place where an element stood before others were lost. -/
def formerPlace (i k j : Nat) : Nat := if j < i then j else j + k

theorem length_without (h : i + k ≤ xs.length) : (without i k xs).length = xs.length - k := by
  rw [without, List.length_append, List.length_take, List.length_drop]
  omega

/-- Elements behind the gap stand in an earlier place. -/
theorem getElem?_without (h : i + k ≤ xs.length) (j : Nat) :
    (without i k xs)[j]? = xs[formerPlace i k j]? := by
  rw [without, List.getElem?_append, List.length_take, List.getElem?_take, List.getElem?_drop,
    Nat.min_eq_left (by omega), formerPlace]
  split
  · rfl
  · rw [show i + k + (j - i) = j + k by omega]

/-- Neighbours were neighbours before, except over the gap. -/
theorem formerPlace_succ (i k j : Nat) :
    formerPlace i k (j + 1) = formerPlace i k j + if j + 1 = i then k + 1 else 1 := by
  unfold formerPlace
  split_ifs <;> omega

end Gap

/-! ## the findings -/

section Findings

variable {s : Schedule} {first stop : Instant} {i k : Nat}

/-- An entry that is left has the seconds of its former place. -/
theorem secs_of_without (hs : s.Spans first stop) (hle : i + k ≤ hs.count) {j : Nat} {e : Entry}
    (he : (without i k hs.entries)[j]? = some e) :
    formerPlace i k j < hs.count ∧ e.secs = first.secs + formerPlace i k j * s.stepSecs := by
  rw [← hs.length_entries] at hle ⊢
  rw [getElem?_without hle] at he
  exact ⟨(List.getElem?_eq_some_iff.1 he).1, (conforms_entries hs).secs_eq he⟩

/-- An entry that is left is one of the schedule. -/
theorem mem_of_without (hs : s.Spans first stop) (hle : i + k ≤ hs.count) {j : Nat} {e : Entry}
    (he : (without i k hs.entries)[j]? = some e) : e ∈ hs.entries := by
  rw [← hs.length_entries] at hle
  rw [getElem?_without hle] at he
  exact List.mem_of_getElem? he

/-- The distance of neighbours that are left. -/
theorem step_of_without (hs : s.Spans first stop) (hle : i + k ≤ hs.count) {j : Nat} {e e' : Entry}
    (he : (without i k hs.entries)[j]? = some e)
    (he' : (without i k hs.entries)[j + 1]? = some e') :
    e'.secs - e.secs = if j + 1 = i then (k + 1) * s.stepSecs else s.stepSecs := by
  rw [(secs_of_without hs hle he).2, (secs_of_without hs hle he').2, formerPlace_succ,
    Int.natCast_add, Int.add_mul]
  split_ifs
  · rw [Int.natCast_add, Int.natCast_one]
    omega
  · rw [Int.natCast_one]
    omega

/-- What is wrong with a ledger from which entries were lost. -/
theorem finds_without_iff (hs : s.Spans first stop) (hk : 1 ≤ k) (hle : i + k ≤ hs.count)
    {v : Violation} :
    Finds s hs.count first (first.year + s.spanYears) (without i k hs.entries) v ↔
      v = .wrongLength hs.count (hs.count - k) ∨
      (i = 0 ∧ k < hs.count ∧ v = .wrongStart (first.secs + k * s.stepSecs) first.secs) ∨
      ((0 < i ∧ i + k < hs.count) ∧ v = .wrongStep (i + 1) ((k + 1) * s.stepSecs) s.stepSecs) := by
  have hgap : 0 < k * s.stepSecs := Int.mul_pos (by omega) hs.step_pos
  have hlength : (without i k hs.entries).length = hs.count - k := by
    rw [length_without (by rwa [hs.length_entries]), hs.length_entries]
  -- Entries are left in all places before the last `k`.
  have hget {j : Nat} (hj : j < hs.count - k) : ∃ e, (without i k hs.entries)[j]? = some e :=
    ⟨_, List.getElem?_eq_getElem (hlength ▸ hj)⟩
  have hright := conforms_entries hs
  constructor
  · intro h
    cases h with
    | length h => exact .inl (by rw [hlength])
    | @start e he h =>
        obtain ⟨hlt, hsecs⟩ := secs_of_without hs hle he
        obtain rfl | hpos := Nat.eq_zero_or_pos i
        · rw [formerPlace, if_neg (Nat.lt_irrefl 0), Nat.zero_add] at hlt hsecs
          exact .inr (.inl ⟨rfl, hlt, by rw [hsecs]⟩)
        · rw [formerPlace, if_pos hpos] at hsecs
          exact absurd (by simpa using hsecs) h
    | stamp he h => exact absurd (hright.stamp_eq _ (mem_of_without hs hle he)) h
    | year he h => exact absurd (hright.year_lt _ (mem_of_without hs hle he)) (Int.not_lt.2 h)
    | @step j e e' he he' h =>
        rw [step_of_without hs hle he he'] at h ⊢
        split_ifs at h ⊢ with hcut
        · subst hcut
          have hlt := (secs_of_without hs hle he').1
          rw [formerPlace, if_neg (Nat.lt_irrefl _)] at hlt
          exact .inr (.inr ⟨⟨Nat.succ_pos j, hlt⟩, rfl⟩)
        · exact absurd rfl h
  · intro h
    obtain rfl | ⟨rfl, hlt, rfl⟩ | ⟨⟨hpos, hlt⟩, rfl⟩ := h
    · rw [← hlength]
      exact .length (by omega)
    · obtain ⟨e, he⟩ := hget (j := 0) (by omega)
      obtain ⟨-, hsecs⟩ := secs_of_without hs hle he
      rw [formerPlace, if_neg (Nat.lt_irrefl 0), Nat.zero_add] at hsecs
      rw [← hsecs]
      exact .start he (by omega)
    · obtain ⟨j, rfl⟩ : ∃ j, i = j + 1 := ⟨i - 1, by omega⟩
      obtain ⟨e, he⟩ := hget (j := j) (by omega)
      obtain ⟨e', he'⟩ := hget (j := j + 1) (by omega)
      have hdist := step_of_without hs hle he he'
      rw [if_pos rfl] at hdist
      rw [← hdist]
      refine .step he he' ?_
      rw [hdist, Int.add_mul]
      omega

/-- Entries were lost between others. -/
theorem violations_of_lost_between (hs : s.Spans first stop) (hk : 1 ≤ k) (hpos : 0 < i)
    (hlt : i + k < hs.count) :
    violations s hs.count first (first.year + s.spanYears) (without i k hs.entries) =
      [.wrongLength hs.count (hs.count - k),
        .wrongStep (i + 1) ((k + 1) * s.stepSecs) s.stepSecs] := by
  refine violations_eq_of ?_ fun v => ?_
  · simp [Violation.Before, Violation.place, List.cons_lt_cons_iff]
  · rw [finds_without_iff hs hk hlt.le]
    simp [hpos, hpos.ne', hlt]

/-- The first entries were lost, but not all. -/
theorem violations_of_lost_front (hs : s.Spans first stop) (hk : 1 ≤ k) (hlt : k < hs.count) :
    violations s hs.count first (first.year + s.spanYears) (without 0 k hs.entries) =
      [.wrongLength hs.count (hs.count - k),
        .wrongStart (first.secs + k * s.stepSecs) first.secs] := by
  refine violations_eq_of ?_ fun v => ?_
  · simp [Violation.Before, Violation.place, List.cons_lt_cons_iff]
  · rw [finds_without_iff hs hk (by omega)]
    simp [hlt]

/-- The last entries were lost, or all. -/
theorem violations_of_lost_back (hs : s.Spans first stop) (hk : 1 ≤ k) (heq : i + k = hs.count) :
    violations s hs.count first (first.year + s.spanYears) (without i k hs.entries) =
      [.wrongLength hs.count (hs.count - k)] := by
  refine violations_eq_of ?_ fun v => ?_
  · simp
  · rw [finds_without_iff hs hk heq.le]
    have hnotFront : ¬ (i = 0 ∧ k < hs.count) := by omega
    have hnotBetween : ¬ (0 < i ∧ i + k < hs.count) := by omega
    simp [← and_assoc, hnotFront, hnotBetween]

end Findings

end Audit

namespace Ledger

/-- For a schedule that passes its check, an audit rejects the entries of the schedule without `k`
successive ones, and tells where they are missing: it reports the length, and beside it the step
over the gap, or the start if the first entries are missing, or nothing if the last ones are. -/
theorem audit_locates_gap {s : Schedule} (h : s.check = .ok ()) :
    ∃ n first generated,
      s.length = .ok n ∧ s.first = .ok first ∧ entries s = .ok generated ∧
      generated.length = n ∧
      ∀ i k : Nat, 1 ≤ k → i + k ≤ n →
        (0 < i ∧ i + k < n →
          audit s (Audit.without i k generated) = .error (.rejected 2 <| "; ".intercalate
            [s!"expected {n} records, found {n - k}",
              s!"line {i + 1}: step {(k + 1) * s.stepSecs}s != {s.stepSecs}s"])) ∧
        (i = 0 ∧ k < n →
          audit s (Audit.without i k generated) = .error (.rejected 2 <| "; ".intercalate
            [s!"expected {n} records, found {n - k}",
              s!"first record starts at {first.secs + k * s.stepSecs}s, expected {first.secs}s"])) ∧
        (i + k = n →
          audit s (Audit.without i k generated) =
            .error (.rejected 1 s!"expected {n} records, found {n - k}")) := by
  obtain ⟨first, stop, hs⟩ := Schedule.exists_spans h
  refine ⟨hs.count, first, hs.entries, hs.length_eq, hs.first_eq, hs.entries_eq, hs.length_entries,
    fun i k hk _ => ⟨?_, ?_, ?_⟩⟩
  · intro hbetween
    obtain ⟨hpos, hlt⟩ := hbetween
    exact audit_of_few_violations hs (Audit.violations_of_lost_between hs hk hpos hlt)
      (List.cons_ne_nil _ _) (by simp)
  · intro hfront
    obtain ⟨rfl, hlt⟩ := hfront
    exact audit_of_few_violations hs (Audit.violations_of_lost_front hs hk hlt)
      (List.cons_ne_nil _ _) (by simp)
  · intro hback
    exact audit_of_few_violations hs (Audit.violations_of_lost_back hs hk hback)
      (List.cons_ne_nil _ _) (by simp)

/-- Two lost entries around the epoch. -/
theorem audit_locates_gap_aroundEpoch :
    Schedule.aroundEpoch.check = .ok () ∧
      ∃ generated, entries Schedule.aroundEpoch = .ok generated ∧
        audit Schedule.aroundEpoch (Audit.without 1 2 generated) = .error (.rejected 2
          "expected 4 records, found 2; line 2: step 30000000s != 10000000s") := by
  have hcheck : Schedule.aroundEpoch.check = .ok () := by decide +kernel
  have hlength : Schedule.aroundEpoch.length = .ok 4 := by decide +kernel
  obtain ⟨n, first, generated, hn, -, hentries, -, haudit⟩ := audit_locates_gap hcheck
  rw [hlength, Except.ok.injEq] at hn
  subst hn
  exact ⟨hcheck, generated, hentries, (haudit 1 2 (by decide) (by decide)).1 (by decide)⟩

end Ledger

end Almanac
