import Almanac.Ledger.Audit
import Mathlib.Data.List.Perm.Basic
import Mathlib.Data.List.Sort

/-!
# Almanac.Proofs.Violation

What the comparisons of an audit find: everything that is wrong with a list of entries, each thing
once, and in a fixed order.

* `Audit.Finds` says what is wrong, with one rule for each comparison, and `mem_violations_iff` that
  the comparisons find this and nothing else;
* `Violation.Before` is the order, and `pairwise_violations` says that the findings are in it, so
  that none of them is found twice;
* both together determine the findings (`violations_eq_of`);
* `length_violations` adds up how many there are of each kind.
-/

namespace Almanac

namespace Violation

/-! ## the order -/

/-- Where a violation stands: the comparison that finds it, the line on which it is found, and on
that line the text before the year. -/
def place : Violation → List Nat
  | .wrongLength .. => [0]
  | .wrongStart .. => [1]
  | .wrongStamp line .. => [2, line, 0]
  | .tooLate line .. => [2, line, 1]
  | .wrongStep line .. => [3, line]

/-- One violation is found before another. -/
def Before (v w : Violation) : Prop := v.place < w.place

instance : Std.Irrefl Before := ⟨fun v => List.lt_irrefl v.place⟩

instance : Std.Antisymm Before := ⟨fun _ _ h h' => absurd h' (List.lt_asymm h)⟩

end Violation

namespace Audit

/-! ## loops over numbered lines -/

section Numbered

variable {α β : Type} {f : α × Nat → List β}

theorem mem_flatMap_zipIdx_iff {xs : List α} {n : Nat} {b : β} :
    b ∈ (xs.zipIdx n).flatMap f ↔ ∃ k x, xs[k]? = some x ∧ b ∈ f (x, n + k) := by
  rw [List.mem_flatMap]
  constructor
  · intro h
    obtain ⟨⟨x, line⟩, hx, hb⟩ := h
    obtain ⟨hle, hget⟩ := List.mk_mem_zipIdx_iff_le_and_getElem?_sub.1 hx
    refine ⟨line - n, x, hget, ?_⟩
    rwa [Nat.add_sub_cancel' hle]
  · intro h
    obtain ⟨k, x, hget, hb⟩ := h
    exact ⟨(x, n + k), List.mk_add_mem_zipIdx_iff_getElem?.2 hget, hb⟩

/-- What is found line by line is in order when it is so on each line, and between two lines. -/
theorem pairwise_flatMap_zipIdx {R : β → β → Prop} (xs : List α) (n : Nat)
    (hone : ∀ x, (f x).Pairwise R)
    (htwo : ∀ x y : α × Nat, x.2 < y.2 → ∀ b ∈ f x, ∀ c ∈ f y, R b c) :
    ((xs.zipIdx n).flatMap f).Pairwise R := by
  rw [List.pairwise_flatMap]
  refine ⟨fun x _ => hone x, ?_⟩
  have hlines : (xs.zipIdx n).Pairwise fun x y => x.2 < y.2 := by
    rw [← List.pairwise_map, List.zipIdx_map_snd]
    exact List.pairwise_lt_range' 1
  exact hlines.imp fun {x y} => htwo x y

/-- A loop that finds one thing on each line where something holds. -/
theorem length_flatMap_zipIdx {p : α → Prop} [DecidablePred p] (xs : List α) (n : Nat)
    (hone : ∀ x line, (f (x, line)).length = if p x then 1 else 0) :
    ((xs.zipIdx n).flatMap f).length = xs.countP p := by
  induction xs generalizing n with
  | nil => rfl
  | cons x xs ih =>
      rw [List.zipIdx_cons, List.flatMap_cons, List.length_append, ih, hone, List.countP_cons,
        Nat.add_comm]
      simp only [decide_eq_true_eq]

end Numbered

/-! ## what is wrong -/

variable {s : Schedule} {expected : Nat} {first : Instant} {stopYear : Int} {es : List Entry}

/-- What is wrong with a list of entries. -/
inductive Finds (s : Schedule) (expected : Nat) (first : Instant) (stopYear : Int)
    (es : List Entry) : Violation → Prop
  | length (h : es.length ≠ expected) :
      Finds s expected first stopYear es (.wrongLength expected es.length)
  | start {e : Entry} (he : es[0]? = some e) (h : e.secs ≠ first.secs) :
      Finds s expected first stopYear es (.wrongStart e.secs first.secs)
  | stamp {k : Nat} {e : Entry} (he : es[k]? = some e) (h : e.stamp ≠ (instantOf first e).stamp) :
      Finds s expected first stopYear es (.wrongStamp (k + 1) e.stamp (instantOf first e).stamp)
  | year {k : Nat} {e : Entry} (he : es[k]? = some e) (h : stopYear ≤ (instantOf first e).year) :
      Finds s expected first stopYear es (.tooLate (k + 1) (instantOf first e).year stopYear)
  | step {k : Nat} {e e' : Entry} (he : es[k]? = some e) (he' : es[k + 1]? = some e')
      (h : e'.secs - e.secs ≠ s.stepSecs) :
      Finds s expected first stopYear es (.wrongStep (k + 2) (e'.secs - e.secs) s.stepSecs)

theorem mem_lengthViolations_iff {v : Violation} :
    v ∈ lengthViolations expected es ↔
      es.length ≠ expected ∧ v = .wrongLength expected es.length := by
  unfold lengthViolations
  split <;> simp_all

theorem mem_startViolations_iff {v : Violation} :
    v ∈ startViolations first es ↔
      ∃ e, es[0]? = some e ∧ e.secs ≠ first.secs ∧ v = .wrongStart e.secs first.secs := by
  cases es with
  | nil => simp [startViolations]
  | cons e es =>
      simp only [startViolations, List.getElem?_cons_zero, Option.some.injEq, exists_eq_left']
      split <;> simp_all

theorem mem_entryViolations_iff {line : Nat} {e : Entry} {v : Violation} :
    v ∈ entryViolations first stopYear line e ↔
      (e.stamp ≠ (instantOf first e).stamp ∧
        v = .wrongStamp line e.stamp (instantOf first e).stamp) ∨
      (stopYear ≤ (instantOf first e).year ∧
        v = .tooLate line (instantOf first e).year stopYear) := by
  simp only [entryViolations, List.mem_append]
  refine or_congr ?_ ?_
  · split <;> simp_all
  · split <;> simp_all

theorem mem_stepViolations_iff {step : Int} {line : Nat} {e e' : Entry} {v : Violation} :
    v ∈ stepViolations step line e e' ↔
      e'.secs - e.secs ≠ step ∧ v = .wrongStep line (e'.secs - e.secs) step := by
  unfold stepViolations
  split <;> simp_all

/-- The neighbours in a list are the pairs of successive places. -/
theorem getElem?_zip_tail_iff {k : Nat} {e e' : Entry} :
    (es.zip es.tail)[k]? = some (e, e') ↔ es[k]? = some e ∧ es[k + 1]? = some e' := by
  rw [List.getElem?_zip_eq_some, List.getElem?_tail]

/-- The comparisons find what is wrong, and nothing else. -/
theorem mem_violations_iff {v : Violation} :
    v ∈ violations s expected first stopYear es ↔ Finds s expected first stopYear es v := by
  simp only [violations, List.mem_append, mem_lengthViolations_iff, mem_startViolations_iff,
    mem_flatMap_zipIdx_iff, mem_entryViolations_iff, mem_stepViolations_iff]
  constructor
  · intro h
    obtain ((⟨h, rfl⟩ | ⟨e, he, h, rfl⟩) | ⟨k, e, he, h⟩) | ⟨k, ⟨e, e'⟩, he, h, rfl⟩ := h
    · exact .length h
    · exact .start he h
    · rw [Nat.add_comm] at h
      obtain ⟨h, rfl⟩ | ⟨h, rfl⟩ := h
      · exact .stamp he h
      · exact .year he h
    · rw [Nat.add_comm]
      obtain ⟨he, he'⟩ := getElem?_zip_tail_iff.1 he
      exact .step he he' h
  · intro h
    cases h with
    | length h => exact .inl (.inl (.inl ⟨h, rfl⟩))
    | start he h => exact .inl (.inl (.inr ⟨_, he, h, rfl⟩))
    | @stamp k e he h => exact .inl (.inr ⟨k, e, he, .inl ⟨h, by rw [Nat.add_comm]⟩⟩)
    | @year k e he h => exact .inl (.inr ⟨k, e, he, .inr ⟨h, by rw [Nat.add_comm]⟩⟩)
    | @step k e e' he he' h =>
        exact .inr ⟨k, (e, e'), getElem?_zip_tail_iff.2 ⟨he, he'⟩, h, by rw [Nat.add_comm]⟩

/-! ## in which order -/

theorem pairwise_entryViolations (line : Nat) (e : Entry) :
    (entryViolations first stopYear line e).Pairwise Violation.Before := by
  simp only [entryViolations]
  split <;> split <;> simp [Violation.Before, Violation.place, List.cons_lt_cons_iff]

theorem pairwise_stepViolations (step : Int) (line : Nat) (e e' : Entry) :
    (stepViolations step line e e').Pairwise Violation.Before := by
  unfold stepViolations
  split <;> simp

/-- The findings are in order. -/
theorem pairwise_violations :
    (violations s expected first stopYear es).Pairwise Violation.Before := by
  have hlength : (lengthViolations expected es).Pairwise Violation.Before := by
    unfold lengthViolations
    split <;> simp
  have hstart : (startViolations first es).Pairwise Violation.Before := by
    cases es with
    | nil => simp [startViolations]
    | cons e es =>
        simp only [startViolations]
        split <;> simp
  simp only [violations, List.pairwise_append]
  refine ⟨⟨⟨hlength, hstart, ?_⟩, ?_, ?_⟩, ?_, ?_⟩
  · intro v hv w hw
    obtain ⟨-, rfl⟩ := mem_lengthViolations_iff.1 hv
    obtain ⟨e, -, -, rfl⟩ := mem_startViolations_iff.1 hw
    simp [Violation.Before, Violation.place, List.cons_lt_cons_iff]
  · refine pairwise_flatMap_zipIdx es 1 (fun x => pairwise_entryViolations x.2 x.1) ?_
    intro x y hlt v hv w hw
    obtain ⟨-, rfl⟩ | ⟨-, rfl⟩ := mem_entryViolations_iff.1 hv <;>
      obtain ⟨-, rfl⟩ | ⟨-, rfl⟩ := mem_entryViolations_iff.1 hw <;>
      simp [Violation.Before, Violation.place, List.cons_lt_cons_iff, hlt]
  · intro v hv w hw
    simp only [List.mem_append, mem_lengthViolations_iff, mem_startViolations_iff,
      mem_flatMap_zipIdx_iff, mem_entryViolations_iff] at hv hw
    obtain ⟨k, e, -, ⟨-, rfl⟩ | ⟨-, rfl⟩⟩ := hw <;>
      obtain ⟨-, rfl⟩ | ⟨e', -, -, rfl⟩ := hv <;>
      simp [Violation.Before, Violation.place, List.cons_lt_cons_iff]
  · refine pairwise_flatMap_zipIdx _ 2
      (fun x => pairwise_stepViolations _ x.2 x.1.1 x.1.2) ?_
    intro x y hlt v hv w hw
    obtain ⟨-, rfl⟩ := mem_stepViolations_iff.1 hv
    obtain ⟨-, rfl⟩ := mem_stepViolations_iff.1 hw
    simp [Violation.Before, Violation.place, List.cons_lt_cons_iff, hlt]
  · intro v hv w hw
    simp only [List.mem_append, mem_lengthViolations_iff, mem_startViolations_iff,
      mem_flatMap_zipIdx_iff, mem_entryViolations_iff] at hv
    obtain ⟨k, p, -, hw⟩ := mem_flatMap_zipIdx_iff.1 hw
    obtain ⟨-, rfl⟩ := mem_stepViolations_iff.1 hw
    obtain (⟨-, rfl⟩ | ⟨e', -, -, rfl⟩) | ⟨j, e, -, ⟨-, rfl⟩ | ⟨-, rfl⟩⟩ := hv <;>
      simp [Violation.Before, Violation.place, List.cons_lt_cons_iff]

/-- What is wrong, listed in order, is what is found. -/
theorem violations_eq_of {vs : List Violation} (horder : vs.Pairwise Violation.Before)
    (hmem : ∀ v, v ∈ vs ↔ Finds s expected first stopYear es v) :
    violations s expected first stopYear es = vs :=
  pairwise_violations.eq_of_mem_iff horder fun v => by rw [mem_violations_iff, hmem]

/-! ## how many -/

theorem length_flatMap_entryViolations (n : Nat) (es : List Entry) :
    ((es.zipIdx n).flatMap fun (e, line) => entryViolations first stopYear line e).length =
      es.countP (fun e => e.stamp ≠ (instantOf first e).stamp) +
        es.countP (fun e => stopYear ≤ (instantOf first e).year) := by
  simp only [entryViolations]
  -- The two comparisons of a line are counted apart.
  rw [← (List.flatMap_append_perm _ _ _).length_eq, List.length_append]
  congr 1
  · refine length_flatMap_zipIdx es n fun e line => ?_
    split <;> simp_all
  · refine length_flatMap_zipIdx es n fun e line => ?_
    simp only [← Int.not_lt]
    split <;> simp_all

theorem length_flatMap_stepViolations (step : Int) (n : Nat) (ps : List (Entry × Entry)) :
    ((ps.zipIdx n).flatMap fun ((e, e'), line) => stepViolations step line e e').length =
      ps.countP fun (e, e') => e'.secs - e.secs ≠ step := by
  refine length_flatMap_zipIdx ps n fun ⟨e, e'⟩ line => ?_
  simp only [stepViolations]
  split <;> simp_all

/-- The findings, added up by their kinds. -/
theorem length_violations :
    (violations s expected first stopYear es).length =
      (if es.length ≠ expected then 1 else 0) +
        (if ∃ e ∈ es[0]?, e.secs ≠ first.secs then 1 else 0) +
        es.countP (fun e => e.stamp ≠ (instantOf first e).stamp) +
        es.countP (fun e => stopYear ≤ (instantOf first e).year) +
        (es.zip es.tail).countP fun (e, e') => e'.secs - e.secs ≠ s.stepSecs := by
  have hlength : (lengthViolations expected es).length =
      if es.length ≠ expected then 1 else 0 := by
    unfold lengthViolations
    split <;> simp_all
  have hstart : (startViolations first es).length =
      if ∃ e ∈ es[0]?, e.secs ≠ first.secs then 1 else 0 := by
    cases es with
    | nil => simp [startViolations]
    | cons e es =>
        simp only [startViolations]
        split <;> simp_all
  rw [violations, List.length_append, List.length_append, List.length_append, hlength, hstart,
    length_flatMap_entryViolations, length_flatMap_stepViolations]
  omega

end Audit

end Almanac
