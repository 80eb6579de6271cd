import Almanac.Proofs.CivilOrder
import Almanac.Proofs.Entries
import Almanac.Proofs.StampReading
import Almanac.Proofs.Utf8

/-!
# Almanac.Proofs.StampOrder

Text order is time order, as long as the years have four digits.

1. Digits of equal number are compared as the numbers that they stand for
   (`Stamp.compare_digits`), and columns of equal width one after the other
   (`Stamp.compare_column`).
2. The columns of month to second have two digits.  So two forms whose years are equally long and
   have no sign, and whose fractions are the same, are compared as the numbers of these columns
   (`Stamp.compare_chars`).
3. The numbers are the civil times of the instants, and civil times are in the order of time
   (`Instant.compare_utf8_stamp`).  The instants of a schedule share their nanoseconds, so the
   stamps of a ledger ascend with its seconds (`Schedule.Spans.stamps_ascend`).
-/

namespace Almanac

/-- Lists whose fronts are equally long are compared by the fronts first. -/
theorem compare_append {α : Type} [Ord α] {as bs cs ds : List α} (h : as.length = bs.length) :
    compare (as ++ cs) (bs ++ ds) = (compare as bs).then (compare cs ds) := by
  induction as generalizing bs with
  | nil =>
      obtain rfl : bs = [] := List.length_eq_zero_iff.1 h.symm
      rw [List.compare_nil_nil]
      rfl
  | cons a as ih =>
      cases bs with
      | nil => contradiction
      | cons b bs =>
          have hlen : as.length = bs.length := Nat.succ.inj h
          rw [List.cons_append, List.cons_append, List.compare_cons_cons, List.compare_cons_cons,
            ih hlen, Ordering.then_assoc]

/-- ASCII text has a byte for each character. -/
theorem Ledger.utf8_of_ascii {s : String} (h : ∀ c ∈ s.toList, c.val ≤ 127) :
    utf8 s = s.toList.map Char.toUInt8 := by
  rw [utf8_eq_flatMap, List.map_eq_flatMap]
  refine List.flatMap_congr fun c hc => ?_
  rw [String.utf8EncodeChar_eq_singleton (Char.utf8Size_eq_one_iff.2 (h c hc))]
  rfl

namespace Stamp

/-! ## digits -/

/-- The first digit weighs as much as all that follow can stand for, and more. -/
theorem number_cons (c : Char) (cs : List Char) :
    number (c :: cs) = (c.toNat - '0'.toNat) * 10 ^ cs.length + number cs := by
  rw [number, Nat.ofDigitChars_cons, Nat.ofDigitChars_eq_ofDigitChars_zero, Nat.mul_zero,
    Nat.zero_add, Nat.mul_comm, number]

theorem number_lt {cs : List Char} (h : Digits cs) : number cs < 10 ^ cs.length := by
  induction cs with
  | nil => decide
  | cons c cs ih =>
      obtain ⟨hc, hcs⟩ := List.forall_mem_cons.1 h
      have hweight : c.toNat - '0'.toNat ≤ 9 := by
        have := (Char.isDigit_iff_toNat.1 hc).2
        have hzero : '0'.toNat = 48 := rfl
        have hnine : '9'.toNat = 57 := rfl
        omega
      have hmul := Nat.mul_le_mul_right (10 ^ cs.length) hweight
      have hrest := ih hcs
      rw [number_cons, List.length_cons, Nat.pow_succ]
      omega

/-- The bytes of digits are in the order of what the digits weigh. -/
theorem compare_digit {c d : Char} (hc : c.isDigit) (hd : d.isDigit) :
    compare c.toUInt8 d.toUInt8 = compare (c.toNat - '0'.toNat) (d.toNat - '0'.toNat) := by
  rw [Char.isDigit_iff_toNat] at hc hd
  have hzero : '0'.toNat = 48 := rfl
  have hnine : '9'.toNat = 57 := rfl
  have hbyte (x : Char) (hx : x.toNat ≤ '9'.toNat) : x.toUInt8.toNat = x.toNat := by
    change x.toNat % 256 = x.toNat
    omega
  have hc' := hbyte c hc.2
  have hd' := hbyte d hd.2
  obtain h | h | h := Nat.lt_trichotomy c.toNat d.toNat
  · rw [Nat.compare_eq_lt.2 (by omega), Std.compare_eq_lt, UInt8.lt_iff_toNat_lt]
    omega
  · rw [h, Nat.compare_eq_eq.2 rfl, Char.toNat_inj.1 h, Std.compare_self]
  · rw [Nat.compare_eq_gt.2 (by omega), Std.compare_eq_gt, UInt8.lt_iff_toNat_lt]
    omega

/-- Digits of equal number are compared as the numbers that they stand for. -/
theorem compare_digits {cs ds : List Char} (hc : Digits cs) (hd : Digits ds)
    (h : cs.length = ds.length) :
    compare (cs.map Char.toUInt8) (ds.map Char.toUInt8) = compare (number cs) (number ds) := by
  induction cs generalizing ds with
  | nil =>
      obtain rfl : ds = [] := List.length_eq_zero_iff.1 h.symm
      rfl
  | cons c cs ih =>
      cases ds with
      | nil => exact absurd h (Nat.succ_ne_zero cs.length)
      | cons d ds =>
          obtain ⟨hc, hcs⟩ := List.forall_mem_cons.1 hc
          obtain ⟨hd, hds⟩ := List.forall_mem_cons.1 hd
          have hlen : cs.length = ds.length := Nat.succ.inj h
          have hlow := number_lt hcs
          have hlow' := number_lt hds
          rw [← hlen] at hlow'
          rw [List.map_cons, List.map_cons, List.compare_cons_cons, ih hcs hds hlen,
            compare_digit hc hd, number_cons, number_cons, ← hlen, ← compare_natCast (_ + _),
            ← compare_natCast (_ - _), ← compare_natCast (number cs)]
          simp only [Int.natCast_add, Int.natCast_mul]
          exact (compare_mul_add (by omega) (by omega)).symm

/-! ## columns -/

/-- A column is compared before what follows it. -/
theorem compare_column {separator : UInt8} {cs ds : List Char} {bs es : List UInt8}
    (hc : TwoDigits cs) (hd : TwoDigits ds) :
    compare (separator :: (cs.map Char.toUInt8 ++ bs)) (separator :: (ds.map Char.toUInt8 ++ es)) =
      (compare (number cs) (number ds)).then (compare bs es) := by
  have hlen : cs.length = ds.length := hc.1.trans hd.1.symm
  rw [List.compare_cons_cons, Std.compare_self, compare_append (by simpa using hlen),
    compare_digits hc.2 hd.2 hlen]
  rfl

/-- The numbers of a form from the year to the second. -/
def numbers (s : Stamp) : List Nat :=
  [number s.year, number s.month, number s.day, number s.hour, number s.minute, number s.second]

/-- Forms without a sign whose years are equally long and whose fractions are the same are compared
as the numbers of the other columns. -/
theorem compare_chars {s r : Stamp} (hs : s.WellFormed) (hr : r.WellFormed)
    (hsign : s.negative = false) (hsign' : r.negative = false)
    (hyear : s.year.length = r.year.length) (hfraction : s.fraction = r.fraction) :
    compare (s.chars.map Char.toUInt8) (r.chars.map Char.toUInt8) =
      compare s.numbers r.numbers := by
  have hcolumns : ∀ bs : List UInt8, compare bs bs = .eq := fun bs => Std.compare_self
  simp only [chars, tail, hsign, hsign', hfraction, Bool.false_eq_true, if_false, List.nil_append,
    List.append_assoc, List.cons_append, List.map_append, List.map_cons]
  rw [compare_append (by simpa using hyear), compare_digits hs.year_digits hr.year_digits hyear,
    compare_column hs.month hr.month, compare_column hs.day hr.day,
    compare_column hs.hour hr.hour, compare_column hs.minute hr.minute,
    compare_column hs.second hr.second, Std.compare_self]
  simp only [numbers, List.compare_cons_cons, List.compare_nil_nil]

/-- Such forms are equally long. -/
theorem length_chars {s r : Stamp} (hs : s.WellFormed) (hr : r.WellFormed)
    (hsign : s.negative = r.negative) (hyear : s.year.length = r.year.length)
    (hfraction : s.fraction = r.fraction) : s.chars.length = r.chars.length := by
  simp only [chars, tail, List.length_append, List.length_cons, hsign, hyear, hfraction,
    hs.month.1, hs.day.1, hs.hour.1, hs.minute.1, hs.second.1, hr.month.1, hr.day.1, hr.hour.1,
    hr.minute.1, hr.second.1]

/-- The numbers of a form are those of the civil time that it shows. -/
theorem Shows.numbers_eq {s : Stamp} {t : Instant} (h : s.Shows t) :
    s.numbers = [t.year.natAbs, t.civil.date.month, t.civil.date.day, t.civil.hour, t.civil.minute,
      t.civil.second] := by
  simp only [numbers, h.year_eq, h.month_eq, h.day_eq, h.hour_eq, h.minute_eq, h.second_eq]

end Stamp

namespace Instant

/-! ## forms of instants -/

/-- The years that are written in four digits and without a sign. -/
def InFourDigits (t : Instant) : Prop := 0 ≤ t.year ∧ t.year ≤ 9999

instance (t : Instant) : Decidable t.InFourDigits := inferInstanceAs (Decidable (_ ∧ _))

theorem isAscii_of_mem_stamp {t : Instant} {c : Char} (h : c ∈ t.stamp.toList) : c.val ≤ 127 := by
  rw [toList_stamp] at h
  obtain h | h := formed_stampChars t c h
  · have hle : c.toNat ≤ '9'.toNat := (Char.isDigit_iff_toNat.1 h).2
    have hnine : '9'.toNat = 57 := rfl
    rw [UInt32.le_iff_toNat_le]
    change c.toNat ≤ 127
    omega
  · have hseparators : separators.all fun c => c.val ≤ 127 := by decide
    exact of_decide_eq_true (List.all_eq_true.1 hseparators c h)

/-- The bytes of a form are its characters. -/
theorem utf8_stamp (t : Instant) : Ledger.utf8 t.stamp = t.columns.chars.map Char.toUInt8 := by
  rw [Ledger.utf8_of_ascii fun _ => isAscii_of_mem_stamp, toList_stamp_eq]

/-- A year of four digits has neither a sign nor a digit more. -/
theorem InFourDigits.year_columns {t : Instant} (h : t.InFourDigits) :
    t.columns.negative = false ∧ t.columns.year.length = 4 := by
  obtain ⟨hlow, hhigh⟩ := h
  refine ⟨decide_eq_false (Int.not_lt.2 hlow), Decimal.length_padded_of_lt (by decide) ?_⟩
  omega

/-- The numbers that are written are in the order of time. -/
theorem compare_numbers {t u : Instant} (ht : t.InFourDigits) (hu : u.InFourDigits)
    (h : t.nanos = u.nanos) : compare t.columns.numbers u.columns.numbers = compare t u := by
  have hyear {v : Instant} (hv : v.InFourDigits) : v.civil.date.year = (v.year.natAbs : Int) :=
    (Int.natAbs_of_nonneg hv.1).symm
  have hnanos : compare t.civil.nanosecond u.civil.nanosecond = .eq := Nat.compare_eq_eq.2 h
  rw [compare_civil, t.shows_columns.numbers_eq, u.shows_columns.numbers_eq]
  simp only [CivilTime.fields, List.compare_cons_cons, List.compare_nil_nil, hyear ht, hyear hu,
    compare_natCast, hnanos, Ordering.eq_then]

/-- Forms of equal fractions and years of four digits are equally long, and their text order is the
order of time. -/
theorem compare_utf8_stamp {t u : Instant} (h : t.nanos = u.nanos) (ht : t.InFourDigits)
    (hu : u.InFourDigits) :
    (Ledger.utf8 t.stamp).length = (Ledger.utf8 u.stamp).length ∧
      compare (Ledger.utf8 t.stamp) (Ledger.utf8 u.stamp) = compare t u := by
  obtain ⟨hsign, hyear⟩ := ht.year_columns
  obtain ⟨hsign', hyear'⟩ := hu.year_columns
  have hlen := hyear.trans hyear'.symm
  have hfraction : t.columns.fraction = u.columns.fraction := congrArg fractionDigits h
  have hwell := t.wellFormed_columns
  have hwell' := u.wellFormed_columns
  rw [utf8_stamp, utf8_stamp, List.length_map, List.length_map,
    Stamp.compare_chars hwell hwell' hsign hsign' hlen hfraction, compare_numbers ht hu h]
  exact ⟨Stamp.length_chars hwell hwell' (hsign.trans hsign'.symm) hlen hfraction, rfl⟩

/-- One second after the last nanosecond before 1970. -/
def afterEpoch : Instant := ⟨epoch.secs, beforeEpoch.nanos, epoch.secs_fits, beforeEpoch.nanos_lt⟩

end Instant

/-! ## ledgers -/

namespace Schedule.Spans

variable {s : Schedule} {first stop : Instant}

/-- The instants of a schedule ascend in whole seconds. -/
theorem pairwise_instants (h : s.Spans first stop) :
    h.run.instants.Pairwise fun t u => t.secs < u.secs ∧ t.nanos = u.nanos := by
  rw [List.pairwise_iff_getElem]
  intro i j hi hj hij
  have hplace {k : Nat} (hk : k < h.run.instants.length) :
      h.run.instants[k].secs = first.secs + k * s.stepSecs ∧
        h.run.instants[k].nanos = first.nanos := by
    have hnth : h.run.nth k = some h.run.instants[k] := by
      rw [← Stepping.getElem?_instants, List.getElem?_eq_getElem hk]
    exact (h.nth_run_eq_some_iff.1 hnth).1
  obtain ⟨hsecs, hnanos⟩ := hplace hi
  obtain ⟨hsecs', hnanos'⟩ := hplace hj
  have hlt : (i : Int) * s.stepSecs < j * s.stepSecs :=
    Int.mul_lt_mul_of_pos_right (Int.ofNat_lt.2 hij) h.step_pos
  rw [hsecs, hsecs', hnanos, hnanos']
  exact ⟨by omega, rfl⟩

/-- The instants of a schedule lie in its years. -/
theorem year_of_mem (h : s.Spans first stop) {t : Instant} (ht : t ∈ h.run.instants) :
    first.year ≤ t.year ∧ t.year < first.year + s.spanYears := by
  obtain ⟨k, hk⟩ := List.mem_iff_getElem?.1 ht
  rw [Stepping.getElem?_instants] at hk
  obtain ⟨⟨hsecs, -⟩, hyear⟩ := Stepping.of_nth_eq_some (r := h.run) rfl hk
  have hnonneg : 0 ≤ (k : Int) * h.run.step :=
    Int.mul_nonneg (Int.natCast_nonneg k) (Int.le_of_lt h.step_pos)
  exact ⟨Instant.year_mono (by omega), hyear⟩

/-- Stamps ascend with the seconds beside them as long as their years have four digits. -/
theorem stamps_ascend (h : s.Spans first stop)
    (hyears : ∀ t ∈ h.run.instants, t.InFourDigits) :
    h.entries.Pairwise fun d e => d.secs < e.secs ∧
      compare (Ledger.utf8 d.stamp) (Ledger.utf8 e.stamp) = .lt := by
  rw [entries, List.pairwise_map]
  refine h.pairwise_instants.imp_of_mem fun {t u} ht hu hlt => ⟨hlt.1, ?_⟩
  rw [Entry.stamp_ofInstant, Entry.stamp_ofInstant,
    (Instant.compare_utf8_stamp hlt.2 (hyears t ht) (hyears u hu)).2, Instant.compare_def,
    Int.compare_eq_lt.2 hlt.1]
  rfl

end Schedule.Spans

namespace Ledger

/-- Text order is time order.

* The forms of two instants with the same nanoseconds and years of four digits are equally long, and
  their bytes are in the order of the instants.
* In a ledger whose years have four digits the stamps ascend as text, as the seconds beside them do
  as numbers. -/
theorem text_order_is_time_order :
    (∀ t u : Instant, t.nanos = u.nanos → t.InFourDigits → u.InFourDigits →
      (utf8 t.stamp).length = (utf8 u.stamp).length ∧
        compare (utf8 t.stamp) (utf8 u.stamp) = compare t u) ∧
    ∀ (s : Schedule) (es : List Entry), entries s = .ok es → ∃ run, s.run = .ok run ∧
      ((∀ t ∈ run.instants, t.InFourDigits) →
        es.Pairwise fun d e => d.secs < e.secs ∧ compare (utf8 d.stamp) (utf8 e.stamp) = .lt) := by
  refine ⟨fun t u h ht hu => Instant.compare_utf8_stamp h ht hu, fun s es hes => ?_⟩
  have hcheck : s.check = .ok () := by
    cases hcheck : s.check with
    | error e => rw [entries, Schedule.run, hcheck] at hes; contradiction
    | ok _ => rfl
  obtain ⟨first, stop, hs⟩ := Schedule.exists_spans hcheck
  rw [hs.entries_eq, Except.ok.injEq] at hes
  subst hes
  exact ⟨hs.run, hs.run_eq, hs.stamps_ascend⟩

open Instant (beforeEpoch afterEpoch)

/-- From 1969 to 1970 nearly every digit of the date changes, and the stamps of the ledger around
that moment ascend. -/
theorem text_order_is_time_order_aroundEpoch :
    (beforeEpoch.nanos = afterEpoch.nanos ∧ beforeEpoch.InFourDigits ∧ afterEpoch.InFourDigits ∧
      (utf8 beforeEpoch.stamp).length = (utf8 afterEpoch.stamp).length ∧
      compare (utf8 beforeEpoch.stamp) (utf8 afterEpoch.stamp) =
        compare beforeEpoch afterEpoch) ∧
    ∃ es, entries Schedule.aroundEpoch = .ok es ∧
      es.Pairwise fun d e => d.secs < e.secs ∧ compare (utf8 d.stamp) (utf8 e.stamp) = .lt := by
  obtain ⟨hinstants, hledgers⟩ := text_order_is_time_order
  have hbefore : beforeEpoch.InFourDigits := by decide +kernel
  have hafter : afterEpoch.InFourDigits := by decide +kernel
  refine ⟨⟨rfl, hbefore, hafter, hinstants _ _ rfl hbefore hafter⟩, ?_⟩
  have hcheck : Schedule.aroundEpoch.check = .ok () := by decide +kernel
  have hfirst : Schedule.aroundEpoch.first = .ok beforeEpoch := by decide +kernel
  obtain ⟨first, stop, hs⟩ := Schedule.exists_spans hcheck
  obtain ⟨run, hrun, hascend⟩ := hledgers _ _ hs.entries_eq
  rw [hs.run_eq, Except.ok.injEq] at hrun
  subst hrun
  refine ⟨hs.entries, hs.entries_eq, hascend fun t ht => ?_⟩
  -- The schedule begins in 1969 and covers two years.
  obtain ⟨hlow, hhigh⟩ := hs.year_of_mem ht
  have heq := hs.first_eq
  rw [hfirst, Except.ok.injEq] at heq
  have hyear : first.year = 1969 := by
    rw [← heq]
    decide +kernel
  have hspan : Schedule.aroundEpoch.spanYears = 2 := rfl
  exact ⟨by omega, by omega⟩

end Ledger

end Almanac
