import Almanac.Proofs.CivilOrder
import Almanac.Proofs.Run

/-!
# Almanac.Proofs.NanosecondCount

An instant is a count of nanoseconds since the epoch, split at the second and rounded down.  The two
parts are quotient and remainder of the count (`Instant.unixNanos_eq_iff`), so there is one instant
for each count with a quotient that fits (`Instant.exists_unixNanos_iff`).

Each operation on instants is an operation on their counts: the constructors take a count apart,
whether its nanoseconds are carried or its seconds are rounded down before the epoch
(`ofUnix_eq_ok_iff`, `ofUnixNanos_eq_ok_iff`), and steps add to it.  `Instant.Obtained` follows a
count through any sequence of operations in unbounded integers, and `Obtained.unixNanos_eq` says that
the instant at the end has this count.
-/

namespace Almanac.Instant

variable {t u : Instant} {n : Int}

/-! ## counts -/

/-- The count of an instant is split into a quotient and a remainder. -/
theorem unixNanos_eq_iff :
    t.unixNanos = n ↔ t.secs = n / 1000000000 ∧ (t.nanos : Int) = n % 1000000000 := by
  have hnanos := t.nanos_lt
  simp only [unixNanos, nanosPerSec] at *
  omega

/-- There is an instant for each count whose seconds fit. -/
theorem exists_unixNanos_iff : (∃ t : Instant, t.unixNanos = n) ↔ FitsInt64 (n / 1000000000) := by
  constructor
  · rintro ⟨t, ht⟩
    rw [← (unixNanos_eq_iff.1 ht).1]
    exact t.secs_fits
  · intro hfits
    have hnanos : (n % 1000000000).toNat < nanosPerSec := by
      simp only [nanosPerSec]
      omega
    exact ⟨⟨_, _, hfits, hnanos⟩, unixNanos_eq_iff.2 ⟨rfl, by simp only; omega⟩⟩

/-- Counts fit in 128 bits. -/
theorem fitsInt128_unixNanos (t : Instant) : FitsInt128 t.unixNanos := by
  have hsecs := t.secs_fits
  have hnanos := t.nanos_lt
  simp only [FitsInt64, FitsInt128, unixNanos, nanosPerSec] at *
  omega

/-- Instants are ordered as their counts: the nanoseconds are a last digit behind the seconds. -/
theorem compare_eq_compare_unixNanos (t u : Instant) :
    compare t u = compare t.unixNanos u.unixNanos := by
  have ht := t.nanos_lt
  have hu := u.nanos_lt
  simp only [nanosPerSec] at ht hu
  simp only [unixNanos, nanosPerSec]
  rw [compare_mul_add (by omega) (by omega), compare_natCast, compare_def]

/-- An instant is not later than another one when its count is no greater. -/
theorem compare_ne_gt_iff : compare t u ≠ .gt ↔ t.unixNanos ≤ u.unixNanos := by
  rw [compare_eq_compare_unixNanos, ne_eq, Int.compare_eq_gt, Int.not_lt]

/-! ## constructors -/

theorem ofUnixNanos_eq_ok_iff {total : Int} :
    ofUnixNanos total = .ok t ↔ t.unixNanos = total := by
  have hparts : ofUnixNanos total = .ok t ↔
      t.secs = total / (nanosPerSec : Nat) ∧ t.nanos = (total % (nanosPerSec : Nat)).toNat := by
    unfold ofUnixNanos
    rw [← atSecs?_eq_some_iff (h := by simp only [nanosPerSec]; omega)]
    split <;> simp_all
  rw [hparts, unixNanos_eq_iff, nanosPerSec]
  omega

/-- A count of nanoseconds whose seconds fit is an instant. -/
theorem ofUnixNanos_of_fits (h : FitsInt64 (n / 1000000000)) :
    ∃ t, ofUnixNanos n = .ok t ∧ t.secs = n / 1000000000 := by
  obtain ⟨t, ht⟩ := exists_unixNanos_iff.2 h
  exact ⟨t, ofUnixNanos_eq_ok_iff.2 ht, (unixNanos_eq_iff.1 ht).1⟩

theorem ofUnixNanos_of_not_fits (h : ¬ FitsInt64 (n / 1000000000)) :
    ofUnixNanos n = .error (.outOfRange s!"{n}ns since epoch") := by
  have hnone : atSecs? (n / (nanosPerSec : Nat)) (n % (nanosPerSec : Nat)).toNat
      (by simp only [nanosPerSec]; omega) = none := atSecs?_eq_none_iff.2 h
  simp only [ofUnixNanos, hnone]

/-- Carried nanoseconds are part of the count. -/
theorem ofUnix_eq_ok_iff {secs : Int} {nanos : Nat} :
    ofUnix secs nanos = .ok t ↔ t.unixNanos = secs * 1000000000 + nanos := by
  have hparts : ofUnix secs nanos = .ok t ↔
      t.secs = secs + (nanos / nanosPerSec : Nat) ∧ t.nanos = nanos % nanosPerSec := by
    unfold ofUnix
    rw [← atSecs?_eq_some_iff (h := Nat.mod_lt _ (by decide))]
    split <;> simp_all
  rw [hparts, unixNanos_eq_iff, nanosPerSec]
  omega

/-! ## steps -/

/-- Going on by whole seconds adds them to the count. -/
theorem unixNanos_of_secs {secs : Int} (hsecs : u.secs = t.secs + secs) (hnanos : u.nanos = t.nanos) :
    u.unixNanos = t.unixNanos + secs * 1000000000 := by
  simp only [unixNanos, nanosPerSec, hsecs, hnanos]
  omega

/-- A midnight is the count of its date's seconds. -/
theorem unixNanos_of_atMidnight {d : Date} (h : atMidnight d = .ok t) :
    t.unixNanos = d.dayNumber * 86400 * 1000000000 := by
  obtain ⟨n, hn, hsecs, hnanos⟩ := atMidnight_eq_ok_iff.1 h
  obtain ⟨-, -, rfl⟩ := Date.dayNumber?_eq_ok_iff.1 hn
  simp only [unixNanos, nanosPerSec, hsecs, hnanos, secsPerDay]
  omega

/-- The answer of a run to the call that follows `k` others. -/
theorem unixNanos_of_nth {r : Stepping} {k : Nat} (hdue : r.due = some t) (h : r.nth k = some u) :
    u.unixNanos = t.unixNanos + k * r.step * 1000000000 := by
  obtain ⟨⟨hsecs, hnanos⟩, -⟩ := Stepping.of_nth_eq_some hdue h
  exact unixNanos_of_secs hsecs hnanos

/-! ## sequences of operations -/

/-- An instant that comes out of a sequence of operations, and the count that it should have: each
operation is done with the count in unbounded integers. -/
inductive Obtained : Instant → Int → Prop
  | unix {t : Instant} {secs : Int} {nanos : Nat} :
      ofUnix secs nanos = .ok t → Obtained t (secs * 1000000000 + nanos)
  | unixNanos {t : Instant} {total : Int} : ofUnixNanos total = .ok t → Obtained t total
  | midnight {t : Instant} {d : Date} :
      atMidnight d = .ok t → Obtained t (d.dayNumber * 86400 * 1000000000)
  | later {t u : Instant} {n secs : Int} :
      Obtained t n → t.addSecs? secs = some u → Obtained u (n + secs * 1000000000)
  | stepped {t u : Instant} {n step stopYear : Int} {r : Stepping} {k : Nat} :
      Obtained t n → Stepping.start t step stopYear = .ok r → r.nth k = some u →
        Obtained u (n + k * step * 1000000000)
  | walked {t u : Instant} {n stopYear : Int} {k : Nat} :
      Obtained t n → (Stepping.daily t stopYear).nth k = some u →
        Obtained u (n + k * 86400 * 1000000000)

/-- No operation loses or rounds anything. -/
theorem Obtained.unixNanos_eq (h : Obtained t n) : t.unixNanos = n := by
  -- Each operation changes the count of its instant as the exact count is changed.
  induction h with
  | unix h => exact ofUnix_eq_ok_iff.1 h
  | unixNanos h => exact ofUnixNanos_eq_ok_iff.1 h
  | midnight h => exact unixNanos_of_atMidnight h
  | later _ hu ih =>
      obtain ⟨hsecs, hnanos⟩ := addSecs?_eq_some_iff.1 hu
      rw [unixNanos_of_secs hsecs hnanos, ih]
  | stepped _ hr hu ih =>
      unfold Stepping.start at hr
      split at hr
      · cases hr
        rw [unixNanos_of_nth rfl hu, ih]
      · contradiction
  | walked _ hu ih =>
      rw [unixNanos_of_nth rfl hu, ih]
      rfl

/-- Every instant can be obtained, from its own count. -/
theorem obtained_unixNanos (t : Instant) : Obtained t t.unixNanos :=
  .unixNanos (ofUnixNanos_eq_ok_iff.2 rfl)

/-- Instants are the counts of nanoseconds whose seconds fit in 64 bits.

* Whatever operations an instant comes out of, its seconds and nanoseconds are quotient and remainder
  of the exact count, so that the nanoseconds are less than a second.
* A count makes an instant exactly when its seconds fit, and likewise seconds with nanoseconds of
  any number when the carry fits; the instant has this count.
* Every instant is obtained in this way from its own count, which fits in 128 bits.
* Instants are compared as their counts. -/
theorem instants_are_counts :
    (∀ (t : Instant) (n : Int), Obtained t n →
      t.nanos < 1000000000 ∧ t.secs = n / 1000000000 ∧ (t.nanos : Int) = n % 1000000000) ∧
    (∀ total : Int, ((∃ t, ofUnixNanos total = .ok t) ↔ FitsInt64 (total / 1000000000)) ∧
      ∀ t, ofUnixNanos total = .ok t → t.unixNanos = total) ∧
    (∀ (secs : Int) (nanos : Nat), ((∃ t, ofUnix secs nanos = .ok t) ↔
        FitsInt64 (secs + (nanos / 1000000000 : Nat))) ∧
      ∀ t, ofUnix secs nanos = .ok t → t.unixNanos = secs * 1000000000 + nanos) ∧
    (∀ t : Instant,
      Obtained t t.unixNanos ∧ FitsInt128 t.unixNanos ∧ ofUnixNanos t.unixNanos = .ok t) ∧
    ∀ t u : Instant, compare t u = compare t.unixNanos u.unixNanos := by
  refine ⟨fun t n h => ?_, fun total => ⟨?_, fun t => ofUnixNanos_eq_ok_iff.1⟩,
    fun secs nanos => ⟨?_, fun t => ofUnix_eq_ok_iff.1⟩,
    fun t => ⟨t.obtained_unixNanos, t.fitsInt128_unixNanos, ofUnixNanos_eq_ok_iff.2 rfl⟩,
    compare_eq_compare_unixNanos⟩
  · obtain ⟨hsecs, hnanos⟩ := unixNanos_eq_iff.1 h.unixNanos_eq
    exact ⟨by omega, hsecs, hnanos⟩
  · simp only [ofUnixNanos_eq_ok_iff, exists_unixNanos_iff]
  · have hcarry : (secs * 1000000000 + nanos) / 1000000000 =
        secs + (nanos / 1000000000 : Nat) := by
      omega
    simp only [ofUnix_eq_ok_iff, exists_unixNanos_iff, hcarry]

/-- A carry into the last second, and from there a step back over the epoch. -/
theorem instants_are_counts_at_last_second :
    ∃ t u, ofUnix 9223372036854775806 1999999999 = .ok t ∧
      t.addSecs? (-9223372036854775808) = some u ∧
      Obtained u (9223372036854775806 * 1000000000 + 1999999999 +
        -9223372036854775808 * 1000000000) ∧
      (u.secs = -1 ∧ u.nanos = 999999999) ∧ compare u epoch = .lt := by
  obtain ⟨hobtained, -, hunix, -, hcompare⟩ := instants_are_counts
  obtain ⟨t, ht⟩ := (hunix 9223372036854775806 1999999999).1.2 (by decide)
  have hlast := Obtained.unix ht
  obtain ⟨-, hsecs, -⟩ := hobtained t _ hlast
  have hfits : FitsInt64 (t.secs + -9223372036854775808) := by
    rw [hsecs]
    decide
  have hback : t.addSecs? (-9223372036854775808) = some ⟨_, t.nanos, hfits, t.nanos_lt⟩ :=
    addSecs?_eq_some_iff.2 ⟨rfl, rfl⟩
  have hearlier := hlast.later hback
  obtain ⟨-, hsecs', hnanos'⟩ := hobtained _ _ hearlier
  refine ⟨t, _, ht, hback, hearlier, ⟨hsecs', Int.ofNat_inj.1 hnanos'⟩, ?_⟩
  rw [hcompare, hearlier.unixNanos_eq]
  decide

end Almanac.Instant
