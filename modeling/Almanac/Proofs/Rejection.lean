import Almanac.Proofs.Audit
import Almanac.Proofs.NanosecondCount

/-!
# Almanac.Proofs.Rejection

How an audit rejects a list of entries: it reports the number of its findings, and the first twenty
of them in words (`Ledger.audit_eq_error_iff`).

What the findings are, and how many there are of each kind, is said in `Proofs.Violation`.
`Ledger.audit_counts_violations` says both of the error, for all schedules that pass their check and
all lists.  Neither a seconds value nor a difference of two of them can leave its range: an entry
always names an instant (`Audit.ofUnix_eq_instantOf`), and differences are taken in unbounded
integers.
-/

namespace Almanac

namespace Audit

/-- An entry names an instant, since its seconds fit. -/
theorem ofUnix_eq_instantOf (first : Instant) (e : Entry) :
    Instant.ofUnix e.secs first.nanos = .ok (instantOf first e) :=
  Instant.ofUnix_eq_ok_iff.2 rfl

/-- A verdict is an error when there are findings. -/
theorem verdict_eq_error_iff {vs : List Violation} {err : LedgerError} :
    verdict vs = .error err ↔ vs ≠ [] ∧ err = .rejected vs.length (details vs) := by
  rw [verdict_eq]
  split <;> simp_all [eq_comm]

theorem details_of_le {vs : List Violation} (h : vs.length ≤ 20) :
    details vs = "; ".intercalate (vs.map Violation.message) := by
  rw [details, maxDetails, List.take_of_length_le h, if_neg (Nat.not_lt.2 h), String.append_empty]

end Audit

namespace Ledger

variable {s : Schedule} {first stop : Instant} {es : List Entry}

/-- An audit is the verdict on the findings, with a report if it is favourable. -/
theorem audit_eq_verdict (hs : s.Spans first stop) :
    audit s es =
      (Audit.verdict (Audit.violations s hs.count first (first.year + s.spanYears) es)).map
        fun _ => ⟨es.length, es.head?.map (·.secs), es.getLast?.map (·.secs)⟩ := by
  rw [audit, hs.check_eq, hs.first_eq, hs.stopYear_eq, hs.length_eq, Outcome.ok_bind,
    Outcome.ok_bind, Outcome.ok_bind, Outcome.ok_bind]
  cases Audit.verdict (Audit.violations s hs.count first (first.year + s.spanYears) es) <;> rfl

/-- An audit rejects a list when there are findings, and reports them. -/
theorem audit_eq_error_iff (hs : s.Spans first stop) {vs : List Violation} {err : LedgerError}
    (hvs : Audit.violations s hs.count first (first.year + s.spanYears) es = vs) :
    audit s es = .error err ↔ vs ≠ [] ∧ err = .rejected vs.length (Audit.details vs) := by
  rw [audit_eq_verdict hs, Outcome.map_eq_error_iff, hvs, Audit.verdict_eq_error_iff]

/-- Up to twenty findings are all told. -/
theorem audit_of_few_violations (hs : s.Spans first stop) {vs : List Violation}
    (hvs : Audit.violations s hs.count first (first.year + s.spanYears) es = vs) (hne : vs ≠ [])
    (hle : vs.length ≤ 20) :
    audit s es =
      .error (.rejected vs.length ("; ".intercalate (vs.map Violation.message))) := by
  rw [← Audit.details_of_le hle]
  exact (audit_eq_error_iff hs hvs).2 ⟨hne, rfl⟩

/-- For a schedule that passes its check, an audit rejects a list of entries exactly when something
is wrong with it.  The error has the number of things that are wrong, each counted once, and tells
the first twenty in their order and how many more there are. -/
theorem audit_counts_violations (h : s.check = .ok ()) :
    ∃ n first stopYear,
      (s.length = .ok n ∧ s.first = .ok first ∧ s.stopYear = .ok stopYear) ∧
      (∀ e : Entry, Instant.ofUnix e.secs first.nanos = .ok (Audit.instantOf first e)) ∧
      ∀ es : List Entry, ∃ vs : List Violation,
        (∀ v, v ∈ vs ↔ Audit.Finds s n first stopYear es v) ∧ vs.Pairwise Violation.Before ∧
        vs.length =
          (if es.length ≠ n then 1 else 0) +
            (if ∃ e ∈ es[0]?, e.secs ≠ first.secs then 1 else 0) +
            es.countP (fun e => e.stamp ≠ (Audit.instantOf first e).stamp) +
            es.countP (fun e => stopYear ≤ (Audit.instantOf first e).year) +
            (es.zip es.tail).countP (fun (e, e') => e'.secs - e.secs ≠ s.stepSecs) ∧
        ∀ err, audit s es = .error err ↔
          vs ≠ [] ∧ err = .rejected vs.length
            ("; ".intercalate ((vs.take 20).map Violation.message) ++
              if 20 < vs.length then s!"; ... and {vs.length - 20} more" else "") := by
  obtain ⟨first, stop, hs⟩ := Schedule.exists_spans h
  refine ⟨hs.count, first, first.year + s.spanYears, ⟨hs.length_eq, hs.first_eq, hs.stopYear_eq⟩,
    Audit.ofUnix_eq_instantOf first, fun es => ?_⟩
  exact ⟨_, fun _ => Audit.mem_violations_iff, Audit.pairwise_violations, Audit.length_violations,
    fun _ => audit_eq_error_iff hs rfl⟩

/-- A single entry, a second late and with a text that is no time, is wrong in three ways. -/
theorem audit_counts_violations_aroundEpoch :
    Schedule.aroundEpoch.check = .ok () ∧
      ∃ details, audit Schedule.aroundEpoch [⟨0, "midnight", by decide⟩] =
        .error (.rejected 3 details) := by
  have hcheck : Schedule.aroundEpoch.check = .ok () := by decide +kernel
  have hlength : Schedule.aroundEpoch.length = .ok 4 := by decide +kernel
  have hfirst : Schedule.aroundEpoch.first = .ok ⟨-1, 999999999, by decide, by decide⟩ := by
    decide +kernel
  have hstop : Schedule.aroundEpoch.stopYear = .ok 1971 := by decide +kernel
  obtain ⟨n, first, stopYear, ⟨hn, ht, hyear⟩, -, haudit⟩ := audit_counts_violations hcheck
  rw [hlength, Except.ok.injEq] at hn
  rw [hfirst, Except.ok.injEq] at ht
  rw [hstop, Except.ok.injEq] at hyear
  subst hn ht hyear
  obtain ⟨vs, -, -, hcount, herror⟩ := haudit [⟨0, "midnight", by decide⟩]
  have hthree : vs.length = 3 := hcount.trans (by decide +kernel)
  refine ⟨hcheck, _, (herror _).2 ⟨?_, by rw [hthree]⟩⟩
  rintro rfl
  contradiction

end Ledger

end Almanac
