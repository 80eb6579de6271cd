import Almanac.Calendar.Stepping
import Almanac.Proofs.YearBound

/-!
# Almanac.Proofs.Run

What a run of instants yields, call by call.

A run looks at one instant at a time: it compares the year of the instant that is due with the stop
year and then moves on by one step.  `Stepping.nth r k` is the answer to the call that follows `k`
others, and two statements about it describe the whole run:

* `nth_eq_some_iff` — the `k`-th answer is the instant `k` steps after the first one, if that
  instant exists and lies before the stop year;
* `getElem?_instants` — the list of the run holds these answers, and nothing else.

No instant before the stop year is missed because later instants have later years, so that an answer
that is not given ends the run.  Both statements together describe a run from its beginning to the
calls after its end (`start_answers_exactly`).  Which call is the first without an answer is told by
its seconds alone if the beginning of the stop year is an instant (`nth_eq_none_iff_of_stop`).
-/

namespace Almanac.Stepping

/-- The answer of a run to the call that follows `k` others. -/
def nth (r : Stepping) : Nat → Option Instant
  | 0 => r.advance.1
  | k + 1 => r.advance.2.nth k

/-! ## one call -/

/-- An instant before the stop year is handed out, and the next one becomes due. -/
theorem advance_of_lt {r : Stepping} {t : Instant} (h : r.due = some t) (hy : t.year < r.stopYear) :
    r.advance = (some t, r.after t) := by
  simp only [advance, h, if_pos hy]

/-- An instant of the stop year or after it ends the run. -/
theorem advance_of_le {r : Stepping} {t : Instant} (h : r.due = some t) (hy : r.stopYear ≤ t.year) :
    r.advance = (none, { r with due := none }) := by
  simp only [advance, h, if_neg (Int.not_lt.2 hy)]

theorem advance_of_none {r : Stepping} (h : r.due = none) : r.advance = (none, r) := by
  simp only [advance, h]

/-- Once a call has no answer, nothing is due any more. -/
theorem due_of_advance_none {r : Stepping} (h : r.advance.1 = none) : r.advance.2.due = none := by
  cases hd : r.due with
  | none => rw [advance_of_none hd, hd]
  | some t =>
      by_cases hy : t.year < r.stopYear
      · rw [advance_of_lt hd hy] at h
        contradiction
      · rw [advance_of_le hd (Int.not_lt.1 hy)]

/-! ## all calls -/

/-- A run that has ended stays so. -/
theorem nth_of_none {r : Stepping} (h : r.due = none) (k : Nat) : r.nth k = none := by
  induction k generalizing r with
  | zero => rw [nth, advance_of_none h]
  | succ k ih => rw [nth, advance_of_none h, ih h]

theorem nth_of_le {r : Stepping} {t : Instant} (h : r.due = some t) (hy : r.stopYear ≤ t.year)
    (k : Nat) : r.nth k = none := by
  cases k with
  | zero => rw [nth, advance_of_le h hy]
  | succ k => rw [nth, advance_of_le h hy, nth_of_none rfl]

/-- One step and `k` more ones lead as far as `k + 1`. -/
theorem secs_add_succ_steps (t : Instant) (step : Int) (k : Nat) :
    t.secs + (k + 1 : Nat) * step = t.secs + step + k * step := by
  rw [Int.natCast_add, Int.add_mul, Int.natCast_one, Int.one_mul]
  omega

/-- What a run answers is a number of steps after the instant that is due, and before the stop
year. -/
theorem of_nth_eq_some {r : Stepping} {t u : Instant} {k : Nat} (h : r.due = some t)
    (hu : r.nth k = some u) :
    (u.secs = t.secs + k * r.step ∧ u.nanos = t.nanos) ∧ u.year < r.stopYear := by
  by_cases hy : t.year < r.stopYear
  · induction k generalizing r t with
    | zero =>
        rw [nth, advance_of_lt h hy, Option.some.injEq] at hu
        subst hu
        simpa using hy
    | succ k ih =>
        rw [nth, advance_of_lt h hy] at hu
        rw [secs_add_succ_steps]
        cases hn : t.addSecs? r.step with
        | none =>
            -- The step leaves the range of instants, which ends the run for good.
            rw [nth_of_none (show (r.after t).due = none from hn)] at hu
            contradiction
        | some v =>
            obtain ⟨hsecs, hnanos⟩ := Instant.addSecs?_eq_some_iff.1 hn
            rw [← hsecs, ← hnanos]
            by_cases hv : v.year < r.stopYear
            · exact ih (r := r.after t) hn hu hv
            · rw [nth_of_le (r := r.after t) hn (Int.not_lt.1 hv)] at hu
              contradiction
  · rw [nth_of_le h (Int.not_lt.1 hy)] at hu
    contradiction

/-- On the way to an instant before the stop year the run goes on, because the years up to there are
no later. -/
theorem advance_of_reaches {r : Stepping} {t u : Instant} {k : Nat} (h : r.due = some t)
    (hsecs : u.secs = t.secs + k * r.step) (hyear : u.year < r.stopYear) :
    r.advance = (some t, r.after t) := by
  have hk : 0 ≤ (k : Int) * r.step :=
    Int.mul_nonneg (Int.natCast_nonneg k) (Int.le_of_lt r.step_pos)
  have hmono : t.year ≤ u.year := Instant.year_mono (by omega)
  exact advance_of_lt h (Int.lt_of_le_of_lt hmono hyear)

/-- On the way to an instant all others are in range. -/
theorem exists_addSecs? {r : Stepping} {t u : Instant} {k : Nat}
    (hsecs : u.secs = t.secs + r.step + k * r.step) : ∃ v, t.addSecs? r.step = some v := by
  have hk : 0 ≤ (k : Int) * r.step :=
    Int.mul_nonneg (Int.natCast_nonneg k) (Int.le_of_lt r.step_pos)
  cases hn : t.addSecs? r.step with
  | none =>
      have hstep := r.step_pos
      have ht := t.secs_fits
      have hu := u.secs_fits
      rw [Instant.addSecs?_eq_none_iff] at hn
      unfold FitsInt64 at *
      omega
  | some v => exact ⟨v, rfl⟩

/-- A run answers with each instant that is a number of steps after the one that is due and lies
before the stop year. -/
theorem nth_eq_some {r : Stepping} {t u : Instant} {k : Nat} (h : r.due = some t)
    (hsecs : u.secs = t.secs + k * r.step) (hnanos : u.nanos = t.nanos)
    (hyear : u.year < r.stopYear) : r.nth k = some u := by
  induction k generalizing r t with
  | zero =>
      have htu : t = u := Instant.ext (by simpa using hsecs.symm) hnanos.symm
      rw [nth, advance_of_reaches h hsecs hyear, htu]
  | succ k ih =>
      rw [nth, advance_of_reaches h hsecs hyear]
      rw [secs_add_succ_steps] at hsecs
      obtain ⟨v, hv⟩ := exists_addSecs? hsecs
      obtain ⟨hvsecs, hvnanos⟩ := Instant.addSecs?_eq_some_iff.1 hv
      rw [← hvsecs] at hsecs
      rw [← hvnanos] at hnanos
      exact ih (r := r.after t) hv hsecs hnanos hyear

/-- The `k`-th answer is the instant `k` steps after the one that is due, as long as that instant
exists and lies before the stop year. -/
theorem nth_eq_some_iff {r : Stepping} {t u : Instant} {k : Nat} (h : r.due = some t) :
    r.nth k = some u ↔
      (u.secs = t.secs + k * r.step ∧ u.nanos = t.nanos) ∧ u.year < r.stopYear := by
  constructor
  · exact of_nth_eq_some h
  · intro hu
    obtain ⟨⟨hsecs, hnanos⟩, hyear⟩ := hu
    exact nth_eq_some h hsecs hnanos hyear

/-- If the beginning of the stop year can be represented, the run ends with the last instant before
it, and never for the range. -/
theorem nth_eq_none_iff_of_stop {r : Stepping} {t stop : Instant} {k : Nat} (h : r.due = some t)
    (hstop : stop.secs = Instant.newYearSecs r.stopYear) :
    r.nth k = none ↔ stop.secs ≤ t.secs + k * r.step := by
  have hk : 0 ≤ (k : Int) * r.step :=
    Int.mul_nonneg (Int.natCast_nonneg k) (Int.le_of_lt r.step_pos)
  constructor
  · intro hnone
    refine Int.not_lt.1 fun hlt => ?_
    -- What `k` steps lead to would lie between two instants, so that it can be represented.
    have hfits : FitsInt64 (t.secs + k * r.step) := by
      have hfirst := t.secs_fits
      have hlast := stop.secs_fits
      unfold FitsInt64 at *
      omega
    have hsome := nth_eq_some (u := ⟨_, t.nanos, hfits, t.nanos_lt⟩) h rfl rfl (by
      rw [← Int.not_le, Instant.le_year_iff, ← hstop]
      exact Int.not_le.2 hlt)
    rw [hnone] at hsome
    contradiction
  · intro hle
    cases hu : r.nth k with
    | none => rfl
    | some u =>
        obtain ⟨⟨hsecs, -⟩, hyear⟩ := of_nth_eq_some h hu
        rw [← Int.not_le, Instant.le_year_iff, ← hstop, hsecs] at hyear
        contradiction

/-! ## the list of a run -/

theorem instants_of_none {r : Stepping} (h : r.due = none) : r.instants = [] := by
  rw [instants_eq_advance, advance_of_none h]

theorem instants_of_lt {r : Stepping} {t : Instant} (h : r.due = some t)
    (hy : t.year < r.stopYear) : r.instants = t :: (r.after t).instants := by
  rw [instants_eq_advance, advance_of_lt h hy]

theorem instants_of_le {r : Stepping} {t : Instant} (h : r.due = some t)
    (hy : r.stopYear ≤ t.year) : r.instants = [] := by
  rw [instants_eq_advance, advance_of_le h hy]

/-- The list of a run holds its answers. -/
theorem getElem?_instants (r : Stepping) (k : Nat) : r.instants[k]? = r.nth k := by
  induction k generalizing r with
  | zero =>
      rw [instants_eq_advance, nth]
      split <;> simp_all
  | succ k ih =>
      rw [instants_eq_advance, nth]
      split
      · next rest hadv =>
          have hnone := due_of_advance_none (r := r) (by rw [hadv])
          rw [nth_of_none hnone, List.getElem?_nil]
      · next t rest hadv =>
          rw [List.getElem?_cons_succ, ih, hadv]

/-- The calls without an answer are those after as many as the list is long. -/
theorem nth_eq_none_iff {r : Stepping} {k : Nat} : r.nth k = none ↔ r.instants.length ≤ k := by
  rw [← getElem?_instants, List.getElem?_eq_none_iff]

/-- The list is as long as there are calls with an answer. -/
theorem length_instants_eq {r : Stepping} {n : Nat} (h : ∀ k, r.nth k = none ↔ n ≤ k) :
    r.instants.length = n := by
  have key (k : Nat) : r.instants.length ≤ k ↔ n ≤ k := by rw [← nth_eq_none_iff, h]
  exact Nat.le_antisymm ((key n).2 (Nat.le_refl n)) ((key _).1 (Nat.le_refl _))

/-! ## parts of a run -/

theorem instants_of_advance {r rest : Stepping} {t : Instant} (h : r.advance = (some t, rest)) :
    r.instants = t :: rest.instants := by
  rw [instants_eq_advance, h]

/-- A run that has ended has no instants left, and no later call is answered. -/
theorem ended_of_advance {r rest : Stepping} (h : r.advance = (none, rest)) :
    r.instants = [] ∧ (∀ k, r.nth k = none) ∧ ∀ k, rest.nth k = none := by
  have hdue : rest.due = none := by
    have hnone := due_of_advance_none (r := r) (by rw [h])
    rwa [h] at hnone
  have hempty : r.instants = [] := by rw [instants_eq_advance, h]
  refine ⟨hempty, fun k => ?_, nth_of_none hdue⟩
  rw [← getElem?_instants, hempty, List.getElem?_nil]

/-- What is taken off a run is the front of its list, and the calls go on behind it. -/
theorem takeOnto_eq (taken : Array Instant) (n : Nat) (r : Stepping) :
    (takeOnto taken n r).1.toList = taken.toList ++ r.instants.take n ∧
      ∀ k, (takeOnto taken n r).2.nth k = r.nth (n + k) := by
  induction n generalizing taken r with
  | zero => simp [takeOnto]
  | succ n ih =>
      rw [takeOnto]
      split
      · next rest hadvance =>
          obtain ⟨hempty, hnone, hrest⟩ := ended_of_advance hadvance
          simp [hempty, hnone, hrest]
      · next t rest hadvance =>
          obtain ⟨htaken, hnth⟩ := ih (taken.push t) rest
          constructor
          · simp [htaken, instants_of_advance hadvance]
          · intro k
            have hsucc : r.nth (n + 1 + k) = rest.nth (n + k) := by
              rw [Nat.add_right_comm, nth, hadvance]
            rw [hsucc, ← hnth k]

theorem take_eq (r : Stepping) (n : Nat) :
    (r.take n).1 = r.instants.take n ∧ ∀ k, (r.take n).2.nth k = r.nth (n + k) := by
  obtain ⟨htaken, hnth⟩ := takeOnto_eq #[] n r
  rw [List.nil_append] at htaken
  exact ⟨htaken, hnth⟩

/-- Skipping instants gives the answer of the call behind them, and the calls go on from there. -/
theorem skipThenNext_eq (r : Stepping) (n : Nat) :
    (r.skipThenNext n).1 = r.nth n ∧ ∀ k, (r.skipThenNext n).2.nth k = r.nth (n + 1 + k) := by
  have hnth := (take_eq r n).2
  constructor
  · exact hnth 0
  · intro k
    rw [Nat.add_assoc, Nat.add_comm 1 k, ← hnth (k + 1)]
    rfl

/-! ## a run from its beginning -/

/-- A positive step gives a run of finitely many answers, after which no call is answered any more.
The `k`-th answer is the instant `k` steps after the first one, for exactly those `k` for which that
instant can be represented and lies before the stop year, and the list of the run holds the answers
in this order. -/
theorem start_answers_exactly (first : Instant) (stopYear : Int) {step : Int} (h : 0 < step) :
    ∃ (r : Stepping) (n : Nat), start first step stopYear = .ok r ∧
      (∀ k, r.nth k = none ↔ n ≤ k) ∧
      (∀ k t, r.nth k = some t ↔
        (t.secs = first.secs + k * step ∧ t.nanos = first.nanos) ∧ t.year < stopYear) ∧
      r.instants.length = n ∧ ∀ k, r.instants[k]? = r.nth k := by
  refine ⟨⟨some first, step, stopYear, h⟩, _, dif_pos h, fun k => nth_eq_none_iff, ?_, rfl,
    getElem?_instants _⟩
  intro k t
  exact nth_eq_some_iff rfl

/-- An instant ten seconds before the last one that can be represented. -/
def nearTheEnd : Instant := ⟨9223372036854775797, 5, by decide, by decide⟩

/-- A run that steps over the last instant hands out its first one and nothing else, however late its
stop year is. -/
theorem start_answers_nearTheEnd :
    0 < (100 : Int) ∧
      ∃ r, start nearTheEnd 100 9223372036854775807 = .ok r ∧
        r.nth 0 = some nearTheEnd ∧ (∀ k, 1 ≤ k → r.nth k = none) ∧ r.instants.length = 1 := by
  have hstep : 0 < (100 : Int) := by decide
  obtain ⟨r, n, hr, hnone, hsome, hlength, -⟩ :=
    start_answers_exactly nearTheEnd 9223372036854775807 hstep
  have hfirst : r.nth 0 = some nearTheEnd := (hsome 0 _).2 (by decide +kernel)
  have hsecond : r.nth 1 = none := by
    cases ht : r.nth 1 with
    | none => rfl
    | some t =>
        have hsecs : t.secs = 9223372036854775797 + 1 * 100 := ((hsome 1 t).1 ht).1.1
        have hfits := t.secs_fits
        unfold FitsInt64 at hfits
        omega
  have hle : n ≤ 1 := (hnone 1).1 hsecond
  have hpos : ¬ n ≤ 0 := by
    rw [← hnone 0, hfirst]
    exact Option.some_ne_none _
  refine ⟨hstep, r, hr, hfirst, fun k hk => (hnone k).2 (Nat.le_trans hle hk), by omega⟩

end Almanac.Stepping
