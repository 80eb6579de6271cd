import Almanac.Calendar.Date
import Mathlib.Data.List.Basic
import Mathlib.Data.List.TakeDrop
import Mathlib.Tactic.MkIffOfInductiveProp

/-!
# Almanac.Proofs.StampGrammar

The grammar of RFC 3339 forms in UTC, and a decoder for it that knows nothing of how instants are
broken down.

1. A form consists of a sign and seven columns of digits (`Stamp`), with separators between them
   (`Stamp.chars`).
2. The year has at least four digits, and if it has more it does not begin with a zero; the columns
   of month to second have two digits; the fraction has at most nine and does not end in a zero
   (`Stamp.WellFormed`).
3. `Stamp.ofChars?` cuts a text into columns.  It reads the texts of the grammar and no others
   (`ofChars?_eq_some_iff`), so the columns of a form are determined by its text.
4. `Stamp.decode?` weighs the columns: the date counts for its day number, the fraction for the
   nanoseconds that it has after zeros are put back behind it (`decode?_eq_some_iff`).
-/

namespace Almanac

/-- The columns of a form. -/
structure Stamp where
  negative : Bool
  year : List Char
  month : List Char
  day : List Char
  hour : List Char
  minute : List Char
  second : List Char
  fraction : List Char

namespace Stamp

/-! ## the grammar -/

/-- Text of decimal digits. -/
def Digits (cs : List Char) : Prop := ∀ c ∈ cs, c.isDigit

/-- Text of exactly two decimal digits. -/
def TwoDigits (cs : List Char) : Prop := cs.length = 2 ∧ Digits cs

instance (cs : List Char) : Decidable (Digits cs) :=
  inferInstanceAs (Decidable (∀ c ∈ cs, c.isDigit))

instance (cs : List Char) : Decidable (TwoDigits cs) := inferInstanceAs (Decidable (_ ∧ _))

/-- The columns are as wide as the grammar wants them. -/
@[mk_iff] structure WellFormed (s : Stamp) : Prop where
  year_digits : Digits s.year
  year_length : 4 ≤ s.year.length
  year_head : 4 < s.year.length → s.year.head? ≠ some '0'
  month : TwoDigits s.month
  day : TwoDigits s.day
  hour : TwoDigits s.hour
  minute : TwoDigits s.minute
  second : TwoDigits s.second
  fraction_digits : Digits s.fraction
  fraction_length : s.fraction.length ≤ 9
  fraction_last : s.fraction.getLast? ≠ some '0'

instance (s : Stamp) : Decidable s.WellFormed := decidable_of_iff _ (wellFormed_iff s).symm

/-- What follows the year. -/
def tail (s : Stamp) : List Char :=
  '-' :: s.month ++ '-' :: s.day ++ 'T' :: s.hour ++ ':' :: s.minute ++ ':' :: s.second ++
    (if s.fraction.isEmpty then [] else '.' :: s.fraction) ++ ['Z']

/-- The text of a form.  The point stands only in front of a fraction. -/
def chars (s : Stamp) : List Char := (if s.negative then ['-'] else []) ++ s.year ++ s.tail

/-! ## reading -/

/-- The text begins with a sign. -/
def isSigned (cs : List Char) : Bool := cs.head? == some '-'

/-- The text without its sign. -/
def unsigned (cs : List Char) : List Char := if isSigned cs then cs.drop 1 else cs

/-- Cuts a text behind the digits of its year and then at fixed places. -/
def cut (cs : List Char) : Stamp :=
  let rest := (unsigned cs).dropWhile Char.isDigit
  { negative := isSigned cs
    year := (unsigned cs).takeWhile Char.isDigit
    month := (rest.drop 1).take 2
    day := (rest.drop 4).take 2
    hour := (rest.drop 7).take 2
    minute := (rest.drop 10).take 2
    second := (rest.drop 13).take 2
    fraction := (rest.drop 16).takeWhile Char.isDigit }

/-- Reads a text.  Cutting does not look at separators; whether they stand where they should is seen
when the columns are put together again. -/
def ofChars? (cs : List Char) : Option Stamp :=
  if (cut cs).WellFormed ∧ (cut cs).chars = cs then some (cut cs) else none

/-- Two digits, one by one. -/
theorem TwoDigits.exists_eq {cs : List Char} (h : TwoDigits cs) : ∃ c d, cs = [c, d] :=
  List.length_eq_two.1 h.1

/-- Digits end in front of a character that is none. -/
theorem Digits.takeWhile_append {cs rest : List Char} (h : Digits cs)
    (hrest : ∀ c, rest.head? = some c → c.isDigit = false) :
    (cs ++ rest).takeWhile Char.isDigit = cs ∧ (cs ++ rest).dropWhile Char.isDigit = rest := by
  have hdigits : ∀ c ∈ cs, Char.isDigit c := h
  rw [List.takeWhile_append_of_pos hdigits, List.dropWhile_append_of_pos hdigits]
  cases rest with
  | nil => simp
  | cons c rest => simp [hrest c rfl]

/-- What follows the year is cut into the columns behind it. -/
theorem WellFormed.columns_tail {s : Stamp} (h : s.WellFormed) :
    (s.tail.drop 1).take 2 = s.month ∧ (s.tail.drop 4).take 2 = s.day ∧
      (s.tail.drop 7).take 2 = s.hour ∧ (s.tail.drop 10).take 2 = s.minute ∧
      (s.tail.drop 13).take 2 = s.second ∧
      (s.tail.drop 16).takeWhile Char.isDigit = s.fraction := by
  obtain ⟨m₁, m₂, hmonth⟩ := h.month.exists_eq
  obtain ⟨d₁, d₂, hday⟩ := h.day.exists_eq
  obtain ⟨h₁, h₂, hhour⟩ := h.hour.exists_eq
  obtain ⟨n₁, n₂, hminute⟩ := h.minute.exists_eq
  obtain ⟨s₁, s₂, hsecond⟩ := h.second.exists_eq
  have hz : ∀ c, ['Z'].head? = some c → c.isDigit = false := by simp
  have hfraction := (h.fraction_digits.takeWhile_append hz).1
  by_cases hne : s.fraction = []
  · simp [tail, hmonth, hday, hhour, hminute, hsecond, hne]
  · simp [tail, hmonth, hday, hhour, hminute, hsecond, hne, hfraction]

/-- A year begins with a digit, which is no sign. -/
theorem WellFormed.head?_year {s : Stamp} (h : s.WellFormed) (rest : List Char) :
    (s.year ++ rest).head? ≠ some '-' := by
  cases hyear : s.year with
  | nil =>
      have hlength := h.year_length
      rw [hyear] at hlength
      contradiction
  | cons c cs =>
      have hc : c.isDigit := h.year_digits c (by rw [hyear]; exact List.mem_cons_self)
      intro heq
      obtain rfl : c = '-' := by simpa using heq
      contradiction

/-- The sign comes off the text of a form. -/
theorem WellFormed.unsigned_chars {s : Stamp} (h : s.WellFormed) :
    isSigned s.chars = s.negative ∧ unsigned s.chars = s.year ++ s.tail := by
  have hhead := h.head?_year s.tail
  cases hneg : s.negative with
  | true => simp [unsigned, isSigned, chars, hneg]
  | false =>
      have hsigned : isSigned (s.year ++ s.tail) = false := by simpa [isSigned] using hhead
      simp [unsigned, hsigned, chars, hneg]

/-- The columns of a form come back from its text. -/
theorem cut_chars {s : Stamp} (h : s.WellFormed) : cut s.chars = s := by
  obtain ⟨hsigned, hunsigned⟩ := h.unsigned_chars
  have hstop : ∀ c, s.tail.head? = some c → c.isDigit = false := by simp [tail]
  obtain ⟨hyear, htail⟩ := h.year_digits.takeWhile_append hstop
  obtain ⟨hmonth, hday, hhour, hminute, hsecond, hfraction⟩ := h.columns_tail
  simp only [cut, hsigned, hunsigned, hyear, htail, hmonth, hday, hhour, hminute, hsecond,
    hfraction]

/-- Exactly the texts of the grammar are read. -/
theorem ofChars?_eq_some_iff {cs : List Char} {s : Stamp} :
    ofChars? cs = some s ↔ s.WellFormed ∧ cs = s.chars := by
  unfold ofChars?
  constructor
  · intro h
    split at h
    · next hcut =>
        rw [Option.some.injEq] at h
        subst h
        exact ⟨hcut.1, hcut.2.symm⟩
    · contradiction
  · intro h
    obtain ⟨hs, hcs⟩ := h
    rw [hcs, cut_chars hs, if_pos ⟨hs, rfl⟩]

/-! ## decoding -/

/-- The number that digits stand for. -/
def number (digits : List Char) : Nat := Nat.ofDigitChars 10 digits 0

/-- The date of a form. -/
def date (s : Stamp) : Date :=
  ⟨if s.negative then -(number s.year : Int) else number s.year, number s.month, number s.day⟩

/-- The seconds since 1970-01-01T00:00:00Z. -/
def secs (s : Stamp) : Int :=
  s.date.dayNumber * 86400 + (number s.hour * 3600 + number s.minute * 60 + number s.second : Nat)

/-- The nanoseconds of the fraction, which is filled up with zeros behind its last digit. -/
def nanos (s : Stamp) : Nat := number (s.fraction ++ List.replicate (9 - s.fraction.length) '0')

/-- The seconds and nanoseconds that a text stands for, if it is of the grammar. -/
def decode? (text : String) : Option (Int × Nat) :=
  (ofChars? text.toList).map fun s => (s.secs, s.nanos)

/-- Exactly the texts of the grammar are decoded. -/
theorem decode?_eq_some_iff {text : String} {value : Int × Nat} :
    decode? text = some value ↔
      ∃ s : Stamp, (s.WellFormed ∧ text.toList = s.chars) ∧ (s.secs, s.nanos) = value := by
  simp only [decode?, Option.map_eq_some_iff, ofChars?_eq_some_iff]

end Stamp

end Almanac
