/-!
# Almanac.Bounds

Ranges of the integers that can be stored.  All arithmetic of the library is done in unbounded
integers; a result that has to be stored in a word of a fixed width is compared with these ranges,
and leaving a range is an error of the calendar, never a wrap-around.

The limits are written as literals so that `omega` sees them.
-/

namespace Almanac

/-- The integers of a signed 64-bit word: years, day numbers, seconds and steps. -/
def FitsInt64 (n : Int) : Prop := -9223372036854775808 ≤ n ∧ n ≤ 9223372036854775807

/-- The integers of a signed 128-bit word: counts of nanoseconds. -/
def FitsInt128 (n : Int) : Prop :=
  -170141183460469231731687303715884105728 ≤ n ∧ n ≤ 170141183460469231731687303715884105727

/-- The naturals of an unsigned 32-bit word: spans in years. -/
def FitsNat32 (n : Nat) : Prop := n < 4294967296

/-- The naturals of an unsigned 64-bit word: counts of entries. -/
def FitsNat64 (n : Nat) : Prop := n < 18446744073709551616

instance (n : Int) : Decidable (FitsInt64 n) := inferInstanceAs (Decidable (_ ∧ _))

instance (n : Int) : Decidable (FitsInt128 n) := inferInstanceAs (Decidable (_ ∧ _))

instance (n : Nat) : Decidable (FitsNat32 n) := inferInstanceAs (Decidable (_ < _))

instance (n : Nat) : Decidable (FitsNat64 n) := inferInstanceAs (Decidable (_ < _))

/-- A 64-bit integer is a 128-bit integer. -/
theorem FitsInt64.fitsInt128 {n : Int} (h : FitsInt64 n) : FitsInt128 n := by
  unfold FitsInt64 at h
  unfold FitsInt128
  omega

end Almanac
