import Almanac.Proofs.Entries
import Almanac.Proofs.Violation

/-!
# Almanac.Proofs.Audit

An audit accepts the entries of the schedule and no other list.

`Audit.Conforms` says what it means that none of the comparisons finds anything wrong
(`violations_eq_nil_iff`).  Each comparison looks at one number, one entry or two neighbours;
together they leave no choice: the first entry and the steps fix the seconds of every entry, the
seconds fix its text, and the length fixes where the list ends (`Conforms.eq_entries`).
-/

namespace Almanac

namespace Audit

theorem secs_instantOf (first : Instant) (e : Entry) : (instantOf first e).secs = e.secs := rfl

/-! ## the comparisons -/

/-- Entries with which nothing is wrong. -/
structure Conforms (s : Schedule) (expected : Nat) (first : Instant) (stopYear : Int)
    (es : List Entry) : Prop where
  length_eq : es.length = expected
  first_secs : ∀ e, es[0]? = some e → e.secs = first.secs
  stamp_eq : ∀ e ∈ es, e.stamp = (instantOf first e).stamp
  year_lt : ∀ e ∈ es, (instantOf first e).year < stopYear
  step_eq : ∀ (k : Nat) e e', es[k]? = some e → es[k + 1]? = some e' →
    e'.secs - e.secs = s.stepSecs

/-- The comparisons find nothing exactly when nothing is wrong. -/
theorem violations_eq_nil_iff {s : Schedule} {expected : Nat} {first : Instant} {stopYear : Int}
    {es : List Entry} :
    violations s expected first stopYear es = [] ↔ Conforms s expected first stopYear es := by
  simp only [List.eq_nil_iff_forall_not_mem, mem_violations_iff]
  constructor
  · intro h
    refine ⟨?_, fun e he => ?_, fun e he => ?_, fun e he => ?_, fun k e e' he he' => ?_⟩
    · by_contra hne
      exact h _ (.length hne)
    · by_contra hne
      exact h _ (.start he hne)
    · by_contra hne
      obtain ⟨k, hk⟩ := List.mem_iff_getElem?.1 he
      exact h _ (.stamp hk hne)
    · by_contra hle
      obtain ⟨k, hk⟩ := List.mem_iff_getElem?.1 he
      exact h _ (.year hk (Int.not_lt.1 hle))
    · by_contra hne
      exact h _ (.step he he' hne)
  · intro h v hv
    cases hv with
    | length hne => exact hne h.length_eq
    | start he hne => exact hne (h.first_secs _ he)
    | stamp he hne => exact hne (h.stamp_eq _ (List.mem_of_getElem? he))
    | year he hle => exact Int.not_le.2 (h.year_lt _ (List.mem_of_getElem? he)) hle
    | step he he' hne => exact hne (h.step_eq _ _ _ he he')

/-! ## conforming entries -/

namespace Conforms

variable {s : Schedule} {expected : Nat} {first stop : Instant} {stopYear : Int} {es : List Entry}

/-- The first entry and the steps fix the seconds of all entries. -/
theorem secs_eq (h : Conforms s expected first stopYear es) {k : Nat} {e : Entry}
    (he : es[k]? = some e) : e.secs = first.secs + k * s.stepSecs := by
  induction k generalizing e with
  | zero => simpa using h.first_secs e he
  | succ k ih =>
      obtain ⟨hlt, -⟩ := List.getElem?_eq_some_iff.1 he
      have hprev : es[k]? = some es[k] := List.getElem?_eq_getElem (by omega)
      have hsecs := ih hprev
      have hstep := h.step_eq k _ e hprev he
      rw [Int.natCast_add, Int.add_mul]
      omega

/-- A conforming entry is that of the instant it names. -/
theorem ofInstant_instantOf (h : Conforms s expected first stopYear es) {e : Entry} (he : e ∈ es) :
    Entry.ofInstant (instantOf first e) = e := by
  rw [Entry.ext_iff, Entry.secs_ofInstant, Entry.stamp_ofInstant, secs_instantOf]
  exact ⟨rfl, (h.stamp_eq e he).symm⟩

/-- Conforming entries are those of the schedule. -/
theorem eq_entries (hs : s.Spans first stop) (h : Conforms s hs.count first stopYear es) :
    es = hs.entries := by
  refine List.ext_getElem? fun k => ?_
  rw [hs.getElem?_entries]
  cases he : es[k]? with
  | none =>
      rw [List.getElem?_eq_none_iff, h.length_eq] at he
      rw [hs.nth_run_eq_none_iff.2 he, Option.map_none]
  | some e =>
      have hk : k < hs.count := by
        rw [← h.length_eq]
        exact (List.getElem?_eq_some_iff.1 he).1
      -- The entry names the instant that the run yields at its place.
      have ht := hs.nth_run_eq_some_iff (t := instantOf first e).2 ⟨⟨h.secs_eq he, rfl⟩, hk⟩
      rw [ht, Option.map_some, h.ofInstant_instantOf (List.mem_of_getElem? he)]

end Conforms

/-- The entry of an instant names that instant. -/
theorem instantOf_ofInstant {first t : Instant} (h : t.nanos = first.nanos) :
    instantOf first (Entry.ofInstant t) = t := Instant.ext rfl h.symm

/-- The entries of a schedule conform to it. -/
theorem conforms_entries {s : Schedule} {first stop : Instant} (hs : s.Spans first stop) :
    Conforms s hs.count first (first.year + s.spanYears) hs.entries := by
  have hget {k : Nat} {e : Entry} (he : hs.entries[k]? = some e) :
      e.secs = first.secs + k * s.stepSecs ∧ e.stamp = (instantOf first e).stamp ∧
        (instantOf first e).year < first.year + s.spanYears := by
    rw [hs.getElem?_entries, Option.map_eq_some_iff] at he
    obtain ⟨t, ht, heq⟩ := he
    subst heq
    have hyear := (Stepping.nth_eq_some_iff (r := hs.run) rfl).1 ht
    obtain ⟨⟨hsecs, hnanos⟩, -⟩ := hs.nth_run_eq_some_iff.1 ht
    rw [instantOf_ofInstant hnanos]
    exact ⟨hsecs, rfl, hyear.2⟩
  refine ⟨hs.length_entries, ?_, ?_, ?_, ?_⟩
  · intro e he
    simpa using (hget he).1
  · intro e he
    obtain ⟨k, hk⟩ := List.mem_iff_getElem?.1 he
    exact (hget hk).2.1
  · intro e he
    obtain ⟨k, hk⟩ := List.mem_iff_getElem?.1 he
    exact (hget hk).2.2
  · intro k e e' he he'
    rw [(hget he).1, (hget he').1, Int.natCast_add, Int.add_mul]
    omega

/-- Nothing is wrong with the entries of the schedule, and with no other list. -/
theorem violations_eq_nil_iff_eq_entries {s : Schedule} {first stop : Instant}
    (hs : s.Spans first stop) {es : List Entry} :
    violations s hs.count first (first.year + s.spanYears) es = [] ↔ es = hs.entries := by
  rw [violations_eq_nil_iff]
  constructor
  · intro h
    exact h.eq_entries hs
  · intro h
    rw [h]
    exact conforms_entries hs

/-! ## the report -/

/-- Collecting counts all violations and keeps the first ones. -/
theorem foldl_push (c : Collector) (vs : List Violation) : vs.foldl Collector.push c =
    ⟨c.count + vs.length,
      c.kept ++ (vs.take (maxDetails - c.kept.length)).map Violation.message⟩ := by
  induction vs generalizing c with
  | nil => simp
  | cons v vs ih =>
      rw [List.foldl_cons, ih, Collector.push]
      by_cases h : c.kept.length < maxDetails
      · have hroom : maxDetails - c.kept.length = maxDetails - (c.kept.length + 1) + 1 := by omega
        simp [h, hroom, Nat.add_assoc, Nat.add_comm 1]
      · have hroom : maxDetails - c.kept.length = 0 := by omega
        simp [h, hroom, Nat.add_assoc, Nat.add_comm 1]

/-- The wording of the first violations, and how many more there are. -/
def details (vs : List Violation) : String :=
  "; ".intercalate ((vs.take maxDetails).map Violation.message) ++
    if maxDetails < vs.length then s!"; ... and {vs.length - maxDetails} more" else ""

/-- A verdict has the number of all violations and the wording of the first ones. -/
theorem verdict_eq (vs : List Violation) :
    verdict vs = if vs = [] then .ok () else .error (.rejected vs.length (details vs)) := by
  have hkept : ((vs.take maxDetails).map Violation.message).length = min maxDetails vs.length := by
    rw [List.length_map, List.length_take]
  rw [verdict, foldl_push, Collector.finish]
  simp only [Nat.zero_add, List.nil_append, List.length_nil, Nat.sub_zero, List.length_eq_zero_iff,
    hkept, details]
  by_cases h : maxDetails < vs.length
  · rw [Nat.min_eq_left (Nat.le_of_lt h), if_pos (Nat.sub_pos_of_lt h), if_pos h]
  · rw [Nat.min_eq_right (Nat.le_of_not_lt h), Nat.sub_self, if_neg (Nat.lt_irrefl 0), if_neg h]

theorem verdict_eq_ok_iff {vs : List Violation} : verdict vs = .ok () ↔ vs = [] := by
  rw [verdict_eq]
  split <;> simp_all

end Audit

/-- What is reported of the entries of the schedule. -/
def Schedule.Spans.report {s : Schedule} {first stop : Instant} (hs : s.Spans first stop) :
    Report := ⟨hs.count, some first.secs, some (first.secs + (hs.count - 1) * s.stepSecs)⟩

/-- The report is read off the two ends of the list. -/
theorem Schedule.Spans.report_eq {s : Schedule} {first stop : Instant} (hs : s.Spans first stop) :
    hs.report = ⟨hs.entries.length, hs.entries.head?.map (·.secs),
      hs.entries.getLast?.map (·.secs)⟩ := by
  obtain ⟨last, ⟨hsecs, -⟩, hlast⟩ := hs.exists_getLast?_entries
  rw [hs.head?_entries, hlast, hs.length_entries, Option.map_some, Option.map_some,
    Entry.secs_ofInstant, Entry.secs_ofInstant, hsecs, report]

namespace Ledger

/-- An audit accepts the entries of the schedule and no other list. -/
theorem audit_eq_ok_iff {s : Schedule} {first stop : Instant} (hs : s.Spans first stop)
    {es : List Entry} {report : Report} :
    audit s es = .ok report ↔ es = hs.entries ∧ report = hs.report := by
  unfold audit
  simp only [Outcome.bind_eq_ok_iff, Outcome.pure_eq_ok_iff, hs.check_eq, hs.first_eq,
    hs.stopYear_eq, hs.length_eq, Except.ok.injEq, exists_eq_left', exists_const, true_and]
  constructor
  · intro h
    obtain ⟨_, hverdict, hreport⟩ := h
    have hes := (Audit.violations_eq_nil_iff_eq_entries hs).1 (Audit.verdict_eq_ok_iff.1 hverdict)
    rw [hes, ← hs.report_eq] at hreport
    exact ⟨hes, hreport.symm⟩
  · intro h
    obtain ⟨hes, hreport⟩ := h
    have hnil := (Audit.violations_eq_nil_iff_eq_entries hs).2 hes
    rw [hreport, hs.report_eq, hes]
    exact ⟨(), Audit.verdict_eq_ok_iff.2 (hes ▸ hnil), rfl⟩

/-- For a schedule that passes its check, an audit accepts exactly the list of the schedule's
entries, among all lists, and reports its length, the first seconds and the last. -/
theorem audit_accepts_exactly_entries {s : Schedule} (h : s.check = .ok ()) :
    ∃ n first generated,
      s.length = .ok n ∧ s.first = .ok first ∧ entries s = .ok generated ∧
      ∀ es report, audit s es = .ok report ↔
        es = generated ∧
          report = ⟨n, some first.secs, some (first.secs + (n - 1) * s.stepSecs)⟩ := by
  obtain ⟨first, stop, hs⟩ := Schedule.exists_spans h
  exact ⟨hs.count, first, hs.entries, hs.length_eq, hs.first_eq, hs.entries_eq,
    fun _ _ => audit_eq_ok_iff hs⟩

/-- The entries around the epoch are accepted and reported. -/
theorem audit_accepts_entries_aroundEpoch :
    Schedule.aroundEpoch.check = .ok () ∧
      ∃ generated, entries Schedule.aroundEpoch = .ok generated ∧
        audit Schedule.aroundEpoch generated = .ok ⟨4, some (-1), some 29999999⟩ := by
  have hcheck : Schedule.aroundEpoch.check = .ok () := by decide +kernel
  have hlength : Schedule.aroundEpoch.length = .ok 4 := by decide +kernel
  have hsecs : Schedule.aroundEpoch.first.map (·.secs) = .ok (-1) := by decide +kernel
  obtain ⟨n, first, generated, hn, hfirst, hentries, haudit⟩ := audit_accepts_exactly_entries hcheck
  rw [hlength, Except.ok.injEq] at hn
  rw [hfirst] at hsecs
  simp only [Except.map, Except.ok.injEq] at hsecs
  refine ⟨hcheck, generated, hentries, (haudit generated _).2 ⟨rfl, ?_⟩⟩
  rw [← hn, hsecs]
  rfl

end Ledger

end Almanac
