import Almanac.Proofs.CivilTime
import Almanac.Proofs.Stamp
import Almanac.Proofs.StampGrammar
import Mathlib.Algebra.Order.Field.Rat
import Mathlib.Data.List.DropRight
import Mathlib.Tactic.FieldSimp

/-!
# Almanac.Proofs.StampReading

The RFC 3339 form of an instant says everything about it (`Instant.stamp_determines_instant`).

`Stamp.Shows` says what the columns of a form have to do with an instant; the seconds and nanoseconds
that the columns are decoded to follow from that (`Shows.secs_eq`, `Shows.nanos_eq`).  The form is
written in columns that show its instant (`shows_columns`), and these are of the grammar
(`wellFormed_columns`) because every part of a civil time has a bound.  Of the fraction the number is
shortened, which takes the zeros off the end of its nine digits (`padded_shortened`).
-/

namespace Almanac

namespace Stamp

/-- The columns show an instant: each one stands for a part of its civil time, and the fraction for
the part of a second that its nanoseconds are. -/
structure Shows (s : Stamp) (t : Instant) : Prop where
  negative_iff : s.negative = true ↔ t.year < 0
  year_eq : number s.year = t.year.natAbs
  month_eq : number s.month = t.civil.date.month
  day_eq : number s.day = t.civil.date.day
  hour_eq : number s.hour = t.civil.hour
  minute_eq : number s.minute = t.civil.minute
  second_eq : number s.second = t.civil.second
  fraction_iff : s.fraction = [] ↔ t.nanos = 0
  fraction_eq : (number s.fraction : ℚ) / 10 ^ s.fraction.length = t.nanos / 10 ^ 9

/-- Zeros behind a number are powers of ten. -/
theorem number_append_zeros (cs : List Char) (k : Nat) :
    number (cs ++ List.replicate k '0') = 10 ^ k * number cs := by
  rw [number, Nat.ofDigitChars_append, Nat.ofDigitChars_replicate_zero, number]

/-- Digits behind the point stand for a part of a second when zeros fill them up to its
nanoseconds. -/
theorem fraction_eq_iff {k m n : Nat} (h : k ≤ 9) :
    (m : ℚ) / 10 ^ k = n / 10 ^ 9 ↔ 10 ^ (9 - k) * m = n := by
  have hpow : (10 : ℚ) ^ 9 = 10 ^ (9 - k) * 10 ^ k := by rw [← pow_add, Nat.sub_add_cancel h]
  have hcast : 10 ^ (9 - k) * m = n ↔ (10 : ℚ) ^ (9 - k) * m = n := by
    rw [← Nat.cast_inj (R := ℚ)]
    push_cast
    rfl
  rw [hcast, hpow]
  field_simp

namespace Shows

variable {s : Stamp} {t : Instant}

/-- The date that is shown is that of the instant. -/
theorem date_eq (h : s.Shows t) : s.date = t.civil.date := by
  have hyear : t.civil.date.year = t.year := rfl
  have hsign := h.negative_iff
  have habs := h.year_eq
  rw [date, h.month_eq, h.day_eq, Date.mk.injEq, hyear]
  refine ⟨?_, rfl, rfl⟩
  split
  · next hneg =>
      have := hsign.1 hneg
      omega
  · next hneg =>
      have := mt hsign.2 hneg
      omega

/-- The date and the time of day make up the seconds. -/
theorem secs_eq (h : s.Shows t) : s.secs = t.secs := by
  rw [secs, h.date_eq, h.hour_eq, h.minute_eq, h.second_eq]
  exact t.secs_eq_civil.symm

/-- The fraction makes up the nanoseconds. -/
theorem nanos_eq (h : s.Shows t) (hw : s.WellFormed) : s.nanos = t.nanos := by
  rw [nanos, number_append_zeros]
  exact (fraction_eq_iff hw.fraction_length).1 h.fraction_eq

end Shows

end Stamp

namespace Instant

/-! ## the fraction -/

/-- The nine digits of the fraction without the zeros at their end. -/
def fractionDigits (nanos : Nat) : List Char :=
  ((Decimal.padded 9 nanos).reverse.dropWhile (· == '0')).reverse

/-- Taking zeros off the end of a number takes them off its digits. -/
theorem padded_shortened {width n : Nat} (hpos : 0 < n) (h : n < 10 ^ width) :
    Decimal.padded (shortened width n).1 (shortened width n).2 =
      (Decimal.padded width n).rdropWhile (· == '0') := by
  induction width generalizing n with
  | zero => omega
  | succ width ih =>
      rw [shortened]
      by_cases hzero : n % 10 = 0
      · rw [if_pos hzero, ih (by omega) (by omega), Decimal.padded_succ (by omega), hzero,
          List.rdropWhile_concat_pos _ _ _ (by decide)]
      · obtain ⟨cs, hcs⟩ := Decimal.exists_padded_eq_concat (width + 1) n
        have hlast := Decimal.digitChar_ne_zero hzero (by omega)
        rw [if_neg hzero, hcs, List.rdropWhile_concat_neg _ _ _ (by simpa using hlast)]
/-- The fraction is written in these digits. -/
theorem fractionChars_eq {nanos : Nat} (h : nanos < nanosPerSec) :
    fractionChars nanos = if nanos = 0 then [] else '.' :: fractionDigits nanos := by
  have hwidth : nanos < 10 ^ 9 := h
  unfold fractionChars
  split
  · rfl
  · exact congrArg _ (padded_shortened (Nat.pos_of_ne_zero ‹_›) hwidth)

/-- Dropping zeros leaves digits. -/
theorem isDigit_of_mem_fractionDigits {nanos : Nat} {c : Char} (h : c ∈ fractionDigits nanos) :
    c.isDigit := by
  rw [fractionDigits, List.mem_reverse] at h
  have hmem := (List.dropWhile_sublist _).subset h
  rw [List.mem_reverse] at hmem
  exact Decimal.isDigit_of_mem_padded hmem

/-- Nine digits are enough for the nanoseconds. -/
theorem length_padded_nanos {nanos : Nat} (h : nanos < nanosPerSec) :
    (Decimal.padded 9 nanos).length = 9 :=
  Decimal.length_padded_of_lt (by decide) h

/-- The zeros that are left away fill the fraction up to nine digits. -/
theorem fractionDigits_append_zeros {nanos : Nat} (h : nanos < nanosPerSec) :
    fractionDigits nanos ++ List.replicate (9 - (fractionDigits nanos).length) '0' =
      Decimal.padded 9 nanos := by
  have happend : fractionDigits nanos ++ (Decimal.padded 9 nanos).rtakeWhile (· == '0') =
      Decimal.padded 9 nanos := List.rdropWhile_append_rtakeWhile
  have hzeros : (Decimal.padded 9 nanos).rtakeWhile (· == '0') =
      List.replicate (9 - (fractionDigits nanos).length) '0' := by
    rw [List.eq_replicate_iff]
    constructor
    · have hlength := length_padded_nanos h
      rw [← happend, List.length_append] at hlength
      omega
    · intro c hc
      simpa using List.mem_rtakeWhile_imp hc
  rw [← hzeros, happend]

/-- The nanoseconds come back from the fraction and the zeros that it lacks. -/
theorem number_fractionDigits {nanos : Nat} (h : nanos < nanosPerSec) :
    10 ^ (9 - (fractionDigits nanos).length) * Stamp.number (fractionDigits nanos) = nanos := by
  rw [← Stamp.number_append_zeros, fractionDigits_append_zeros h]
  exact Decimal.ofDigitChars_padded 9 nanos

/-- A fraction has at most nine digits. -/
theorem length_fractionDigits {nanos : Nat} (h : nanos < nanosPerSec) :
    (fractionDigits nanos).length ≤ 9 := by
  have hlength := length_padded_nanos h
  rw [← fractionDigits_append_zeros h, List.length_append] at hlength
  omega

/-- A fraction does not end in a zero. -/
theorem getLast?_fractionDigits (nanos : Nat) : (fractionDigits nanos).getLast? ≠ some '0' := by
  rw [fractionDigits, List.getLast?_reverse]
  intro h
  have hhead := List.head?_dropWhile_not (· == '0') (Decimal.padded 9 nanos).reverse
  rw [h] at hhead
  contradiction

/-- A fraction is empty for whole seconds only. -/
theorem fractionDigits_eq_nil_iff {nanos : Nat} (h : nanos < nanosPerSec) :
    fractionDigits nanos = [] ↔ nanos = 0 := by
  constructor
  · intro hnil
    rw [← number_fractionDigits h, hnil]
    rfl
  · intro hzero
    rw [hzero]
    decide

/-! ## the columns -/

/-- The columns in which the form of an instant is written. -/
def columns (t : Instant) : Stamp where
  negative := decide (t.year < 0)
  year := Decimal.padded 4 t.year.natAbs
  month := Decimal.padded 2 t.civil.date.month
  day := Decimal.padded 2 t.civil.date.day
  hour := Decimal.padded 2 t.civil.hour
  minute := Decimal.padded 2 t.civil.minute
  second := Decimal.padded 2 t.civil.second
  fraction := fractionDigits t.nanos

theorem stampChars_eq (t : Instant) : t.stampChars = t.columns.chars := by
  have hfraction : fractionChars t.nanos =
      if (fractionDigits t.nanos).isEmpty then [] else '.' :: fractionDigits t.nanos := by
    simp only [fractionChars_eq t.nanos_lt, List.isEmpty_iff, fractionDigits_eq_nil_iff t.nanos_lt]
  have hyear : t.civil.date.year = t.year := rfl
  simp [stampChars, civilChars, yearChars, Stamp.chars, Stamp.tail, columns, hfraction, hyear]

/-- A number below 100 has a column of two digits. -/
theorem twoDigits_padded {n : Nat} (h : n < 100) : Stamp.TwoDigits (Decimal.padded 2 n) :=
  ⟨Decimal.length_padded_of_lt (by decide) h, fun _ => Decimal.isDigit_of_mem_padded⟩

/-- The columns of an instant are of the grammar. -/
theorem wellFormed_columns (t : Instant) : t.columns.WellFormed := by
  obtain ⟨-, hmonth, -, hday⟩ := t.valid_civil
  have hlast := monthLength_le t.civil.date.year t.civil.date.month
  obtain ⟨hhour, hminute, hsecond⟩ := t.civil_time_lt
  constructor
  case year_digits => exact fun _ => Decimal.isDigit_of_mem_padded
  case year_length =>
    simp only [columns, Decimal.length_padded]
    omega
  case year_head => exact Decimal.head?_padded_ne_zero (by decide)
  case month => exact twoDigits_padded (by omega)
  case day => exact twoDigits_padded (by omega)
  case hour => exact twoDigits_padded (by omega)
  case minute => exact twoDigits_padded (by omega)
  case second => exact twoDigits_padded (by omega)
  case fraction_digits => exact fun _ => isDigit_of_mem_fractionDigits
  case fraction_length => exact length_fractionDigits t.nanos_lt
  case fraction_last => exact getLast?_fractionDigits t.nanos

/-- The columns of an instant show it. -/
theorem shows_columns (t : Instant) : t.columns.Shows t where
  negative_iff := decide_eq_true_iff
  year_eq := Decimal.ofDigitChars_padded 4 _
  month_eq := Decimal.ofDigitChars_padded 2 _
  day_eq := Decimal.ofDigitChars_padded 2 _
  hour_eq := Decimal.ofDigitChars_padded 2 _
  minute_eq := Decimal.ofDigitChars_padded 2 _
  second_eq := Decimal.ofDigitChars_padded 2 _
  fraction_iff := fractionDigits_eq_nil_iff t.nanos_lt
  fraction_eq := (Stamp.fraction_eq_iff (length_fractionDigits t.nanos_lt)).2
    (number_fractionDigits t.nanos_lt)

theorem toList_stamp_eq (t : Instant) : t.stamp.toList = t.columns.chars := by
  rw [toList_stamp, stampChars_eq]

/-- The form is decoded to the seconds and nanoseconds of its instant. -/
theorem decode?_stamp (t : Instant) : Stamp.decode? t.stamp = some (t.secs, t.nanos) := by
  rw [Stamp.decode?_eq_some_iff]
  refine ⟨t.columns, ⟨t.wellFormed_columns, t.toList_stamp_eq⟩, ?_⟩
  rw [t.shows_columns.secs_eq, t.shows_columns.nanos_eq t.wellFormed_columns]

/-- The form of an instant is a text of the grammar whose columns show the instant, it is decoded to
the instant's seconds and nanoseconds, and so no two instants have the same form. -/
theorem stamp_determines_instant (t : Instant) :
    (∃ s : Stamp, t.stamp.toList = s.chars ∧ s.WellFormed ∧ s.Shows t) ∧
      Stamp.decode? t.stamp = some (t.secs, t.nanos) ∧
      ∀ u : Instant, t.stamp = u.stamp ↔ t = u := by
  refine ⟨⟨t.columns, t.toList_stamp_eq, t.wellFormed_columns, t.shows_columns⟩, t.decode?_stamp,
    fun u => ?_⟩
  constructor
  · intro h
    have hdecode := t.decode?_stamp
    rw [h, u.decode?_stamp, Option.some.injEq, Prod.mk.injEq] at hdecode
    exact Instant.ext hdecode.1.symm hdecode.2.symm
  · intro h
    rw [h]

end Instant

end Almanac
