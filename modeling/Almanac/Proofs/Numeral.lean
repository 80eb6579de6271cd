import Almanac.Proofs.Digits
import Almanac.Proofs.Outcome
import Mathlib.Data.List.Induction

/-!
# Almanac.Proofs.Numeral

Which texts are read as signed 64-bit integers, which of them are written forms, and what is wrong
with the others.

1. A text is cut into a sign and what follows it (`Sign.cut`).  A *numeral* has digits there, and at
   least one (`Numeral`).  The numerals whose value fits in 64 bits are read to it, and no other text
   is read (`readInt64_eq_ok_iff`).
2. Reading breaks off at the first character that is no digit, or with which the digits exceed the
   limit of their sign.  This character decides which fault is reported (`Misread`,
   `readInt64_eq_error_iff`).
3. Each integer has one *canonical* numeral: without `+`, superfluous zeros and a negative zero.  It
   is the one that is written (`toList_toString_eq_iff`).
-/

namespace Almanac.Decimal

/-! ## signs -/

/-- What may stand in front of digits. -/
inductive Sign
  | none
  | plus
  | minus
deriving DecidableEq

namespace Sign

/-- The sign of a text, and what follows it. -/
def cut : List Char → Sign × List Char
  | '+' :: rest => (plus, rest)
  | '-' :: rest => (minus, rest)
  | cs => (none, cs)

/-- The largest magnitude that fits in 64 bits behind the sign. -/
def limit : Sign → Nat
  | minus => 9223372036854775808
  | _ => 9223372036854775807

/-- The fault of a larger magnitude. -/
def beyond : Sign → Fault
  | minus => .tooSmall
  | _ => .tooLarge

/-- The integer with a sign and a magnitude. -/
def apply : Sign → Nat → Int
  | minus, n => -n
  | _, n => n

/-- Something follows the sign of a text only if there is a text. -/
theorem ne_nil_of_cut {cs : List Char} (h : (cut cs).2 ≠ []) : cs ≠ [] := by
  intro hnil
  subst hnil
  exact h rfl

theorem fitsInt64_apply_iff {σ : Sign} {n : Nat} : FitsInt64 (σ.apply n) ↔ n ≤ σ.limit := by
  cases σ <;> simp only [FitsInt64, apply, limit] <;> omega

end Sign

/-! ## reading digits -/

/-- Digits whose value stays in the limit. -/
def Within (limit : Nat) (cs : List Char) : Prop :=
  (∀ c ∈ cs, c.isDigit) ∧ Nat.ofDigitChars 10 cs 0 ≤ limit

/-- Reading breaks off at the first character with which the text is no longer digits in the
limit. -/
theorem readDigits_break {limit : Nat} {beyond : Fault} {pre post : List Char} {c : Char}
    (hpre : Within limit pre) (hc : ¬ Within limit (pre ++ [c])) :
    readDigits limit beyond 0 (pre ++ c :: post) =
      .error (if c.isDigit then beyond else .invalidDigit) := by
  rw [readDigits_append hpre.1 hpre.2, readDigits]
  by_cases hd : c.isDigit
  · have hlt : limit < Nat.ofDigitChars 10 pre 0 * 10 + (c.toNat - '0'.toNat) := by
      refine Nat.lt_of_not_le fun hle => hc ⟨?_, ?_⟩
      · exact List.forall_mem_append.2 ⟨hpre.1, by simpa using hd⟩
      · rwa [Nat.ofDigitChars_append, Nat.ofDigitChars_cons, Nat.ofDigitChars_nil, Nat.mul_comm]
    simp only [hd, if_true, hlt]
  · simp only [hd, Bool.false_eq_true, if_false]

/-- A text that is not digits in the limit has a first character with which it is no longer. -/
theorem exists_break {limit : Nat} {cs : List Char} (h : ¬ Within limit cs) :
    ∃ pre c post, cs = pre ++ c :: post ∧ Within limit pre ∧ ¬ Within limit (pre ++ [c]) := by
  induction cs using List.reverseRecOn with
  | nil => exact absurd ⟨by simp, by simp⟩ h
  | append_singleton cs c ih =>
      by_cases hcs : Within limit cs
      · exact ⟨cs, c, [], rfl, hcs, h⟩
      · obtain ⟨pre, d, post, heq, hpre, hd⟩ := ih hcs
        exact ⟨pre, d, post ++ [c], by simp [heq], hpre, hd⟩

theorem readDigits_eq_ok_iff {limit n : Nat} {beyond : Fault} {cs : List Char} :
    readDigits limit beyond 0 cs = .ok n ↔ Within limit cs ∧ Nat.ofDigitChars 10 cs 0 = n := by
  by_cases h : Within limit cs
  · rw [readDigits_eq_ok h.1 h.2]
    simp [h]
  · obtain ⟨pre, c, post, heq, hpre, hc⟩ := exists_break h
    rw [heq, readDigits_break hpre hc, ← heq]
    simp [h]

theorem readDigits_eq_error_iff {limit : Nat} {beyond fault : Fault} {cs : List Char} :
    readDigits limit beyond 0 cs = .error fault ↔
      ∃ pre c post, cs = pre ++ c :: post ∧ Within limit pre ∧ ¬ Within limit (pre ++ [c]) ∧
        (if c.isDigit then beyond else .invalidDigit) = fault := by
  constructor
  · intro h
    have hnot : ¬ Within limit cs := by
      intro hcs
      rw [readDigits_eq_ok hcs.1 hcs.2] at h
      contradiction
    obtain ⟨pre, c, post, heq, hpre, hc⟩ := exists_break hnot
    rw [heq, readDigits_break hpre hc, Except.error.injEq] at h
    exact ⟨pre, c, post, heq, hpre, hc, h⟩
  · intro h
    obtain ⟨pre, c, post, heq, hpre, hc, hfault⟩ := h
    rw [heq, readDigits_break hpre hc, hfault]

/-! ## reading numerals -/

/-- A sign at most and digits, at least one, whose value is `n`. -/
structure Numeral (cs : List Char) (n : Int) : Prop where
  ne_nil : (Sign.cut cs).2 ≠ []
  digits : ∀ c ∈ (Sign.cut cs).2, c.isDigit
  value_eq : (Sign.cut cs).1.apply (Nat.ofDigitChars 10 (Sign.cut cs).2 0) = n

/-- What is wrong with a text that is not read: it is empty, nothing follows its sign, or there is a
first character with which what follows the sign is no longer digits in the limit. -/
inductive Misread (cs : List Char) : Fault → Prop
  | empty (h : cs = []) : Misread cs .empty
  | signOnly (hne : cs ≠ []) (h : (Sign.cut cs).2 = []) : Misread cs .invalidDigit
  | broken {pre post : List Char} {c : Char} (h : (Sign.cut cs).2 = pre ++ c :: post)
      (hpre : Within (Sign.cut cs).1.limit pre) (hc : ¬ Within (Sign.cut cs).1.limit (pre ++ [c])) :
      Misread cs (if c.isDigit then (Sign.cut cs).1.beyond else .invalidDigit)

/-- Reading takes the sign off and reads what follows it. -/
theorem readInt64_eq (cs : List Char) :
    readInt64 cs =
      if cs = [] then .error .empty
      else if (Sign.cut cs).2 = [] then .error .invalidDigit
      else (readDigits (Sign.cut cs).1.limit (Sign.cut cs).1.beyond 0 (Sign.cut cs).2).map
        (Sign.cut cs).1.apply := by
  unfold readInt64
  split <;> simp_all [Sign.cut] <;> rfl

/-- Exactly the numerals whose value fits in 64 bits are read. -/
theorem readInt64_eq_ok_iff {cs : List Char} {n : Int} :
    readInt64 cs = .ok n ↔ Numeral cs n ∧ FitsInt64 n := by
  rw [readInt64_eq]
  constructor
  · intro h
    split_ifs at h with hnil hne
    obtain ⟨m, hm, hn⟩ := Outcome.map_eq_ok_iff.1 h
    obtain ⟨hwithin, hvalue⟩ := readDigits_eq_ok_iff.1 hm
    subst hvalue hn
    exact ⟨⟨hne, hwithin.1, rfl⟩, Sign.fitsInt64_apply_iff.2 hwithin.2⟩
  · intro h
    obtain ⟨hnum, hfits⟩ := h
    rw [← hnum.value_eq, Sign.fitsInt64_apply_iff] at hfits
    rw [if_neg (Sign.ne_nil_of_cut hnum.ne_nil), if_neg hnum.ne_nil,
      readDigits_eq_ok hnum.digits hfits]
    exact congrArg Except.ok hnum.value_eq

/-- A text that is not read is reported by what is wrong with it. -/
theorem readInt64_eq_error_iff {cs : List Char} {fault : Fault} :
    readInt64 cs = .error fault ↔ Misread cs fault := by
  rw [readInt64_eq]
  constructor
  · intro h
    split_ifs at h with hnil hne
    · cases h
      exact .empty hnil
    · cases h
      exact .signOnly hnil hne
    · rw [Outcome.map_eq_error_iff, readDigits_eq_error_iff] at h
      obtain ⟨pre, c, post, heq, hpre, hc, hfault⟩ := h
      subst hfault
      exact .broken heq hpre hc
  · intro h
    cases h with
    | empty h => rw [if_pos h]
    | signOnly hne h => rw [if_neg hne, if_pos h]
    | @broken pre post c h hpre hc =>
        have hne : (Sign.cut cs).2 ≠ [] := by simp [h]
        rw [if_neg (Sign.ne_nil_of_cut hne), if_neg hne, h, readDigits_break hpre hc]
        rfl

/-! ## written numerals -/

/-- The form in which integers are written: zero is `0`, and every other integer has a `-` if it is
negative, a first digit that is not `0`, and more digits. -/
inductive Canonical : List Char → Prop
  | zero : Canonical ['0']
  | positive {d : Char} {ds : List Char} (hd : d.isDigit) (hne : d ≠ '0')
      (hds : ∀ c ∈ ds, c.isDigit) : Canonical (d :: ds)
  | negative {d : Char} {ds : List Char} (hd : d.isDigit) (hne : d ≠ '0')
      (hds : ∀ c ∈ ds, c.isDigit) : Canonical ('-' :: d :: ds)

/-- A digit is that of its value. -/
theorem digitChar_of_isDigit {c : Char} (h : c.isDigit) :
    c.toNat - '0'.toNat < 10 ∧ Nat.digitChar (c.toNat - '0'.toNat) = c := by
  have hc : 48 ≤ c.toNat ∧ c.toNat ≤ 57 := by
    simpa [Char.isDigit, UInt32.le_iff_toNat_le] using h
  have hlt : c.toNat - '0'.toNat < 10 := by
    rw [show '0'.toNat = 48 from rfl]
    omega
  refine ⟨hlt, Char.toNat_inj.1 ?_⟩
  rw [Nat.toNat_digitChar_of_lt_ten hlt, show '0'.toNat = 48 from rfl]
  omega

/-- Digits behind a number that is not zero are the last digits of the number that is read. -/
theorem toDigits_ofDigitChars {value : Nat} {cs : List Char} (hv : 0 < value)
    (hd : ∀ c ∈ cs, c.isDigit) :
    Nat.toDigits 10 (Nat.ofDigitChars 10 cs value) = Nat.toDigits 10 value ++ cs := by
  induction cs generalizing value with
  | nil => simp
  | cons c cs ih =>
      obtain ⟨hc, hcs⟩ := List.forall_mem_cons.1 hd
      obtain ⟨hlt, hchar⟩ := digitChar_of_isDigit hc
      rw [Nat.ofDigitChars_cons, ih (by omega) hcs,
        ← Nat.toDigits_append_toDigits (by decide) hv hlt, Nat.toDigits_of_lt_base hlt, hchar,
        List.append_assoc, List.singleton_append]

/-- Digits without superfluous zeros are those of their value. -/
theorem toDigits_ofDigitChars_cons {d : Char} {ds : List Char} (hd : d.isDigit) (hne : d ≠ '0')
    (hds : ∀ c ∈ ds, c.isDigit) :
    Nat.toDigits 10 (Nat.ofDigitChars 10 (d :: ds) 0) = d :: ds := by
  obtain ⟨hlt, hchar⟩ := digitChar_of_isDigit hd
  have hpos : 0 < d.toNat - '0'.toNat := by
    refine Nat.pos_of_ne_zero fun hzero => hne ?_
    rw [← hchar, hzero]
    rfl
  rw [Nat.ofDigitChars_cons, Nat.mul_zero, Nat.zero_add, toDigits_ofDigitChars hpos hds,
    Nat.toDigits_of_lt_base hlt, hchar, List.singleton_append]

/-- Digits have no sign in front of them. -/
theorem Sign.cut_of_isDigit {c : Char} {cs : List Char} (h : c.isDigit) :
    cut (c :: cs) = (none, c :: cs) := by
  unfold cut
  split
  · simp_all
  · simp_all
  · rfl

/-- A written integer is a numeral of that integer. -/
theorem numeral_toString (n : Int) : Numeral (toString n).toList n := by
  have hne : Nat.toDigits 10 n.natAbs ≠ [] := Nat.toDigits_ne_nil
  have hdigits : ∀ c ∈ Nat.toDigits 10 n.natAbs, c.isDigit := fun _ => isDigit_of_mem_digits
  rw [toList_toString]
  split
  · refine ⟨hne, hdigits, ?_⟩
    simp only [List.singleton_append, Sign.cut, Sign.apply, Nat.ofDigitChars_ten_toDigits]
    omega
  · have hcut : Sign.cut (Nat.toDigits 10 n.natAbs) = (.none, Nat.toDigits 10 n.natAbs) := by
      obtain ⟨c, cs, hcs⟩ := List.exists_cons_of_ne_nil hne
      rw [hcs] at hdigits ⊢
      exact Sign.cut_of_isDigit (hdigits c List.mem_cons_self)
    rw [List.nil_append]
    constructor <;> rw [hcut]
    · exact hne
    · exact hdigits
    · simp only [Sign.apply, Nat.ofDigitChars_ten_toDigits]
      omega

/-- An integer of 64 bits is read back from its written form. -/
theorem readInt64_toString {n : Int} (h : FitsInt64 n) : readInt64 (toString n).toList = .ok n :=
  readInt64_eq_ok_iff.2 ⟨numeral_toString n, h⟩

/-- The written form of an integer is canonical. -/
theorem canonical_toString (n : Int) : Canonical (toString n).toList := by
  rw [toList_toString]
  by_cases hzero : n = 0
  · subst hzero
    exact .zero
  · obtain ⟨d, ds, hds⟩ := List.exists_cons_of_ne_nil (Nat.toDigits_ne_nil (n := n.natAbs) (b := 10))
    have hhead := head?_toDigits_ne_zero (n := n.natAbs) (by omega)
    have hdigits : ∀ c ∈ Nat.toDigits 10 n.natAbs, c.isDigit := fun _ => isDigit_of_mem_digits
    rw [hds] at hhead hdigits ⊢
    obtain ⟨hd, hdigits⟩ := List.forall_mem_cons.1 hdigits
    have hne : d ≠ '0' := by simpa using hhead
    split
    · exact .negative hd hne hdigits
    · exact .positive hd hne hdigits

/-- A canonical numeral is the written form of its value. -/
theorem toList_toString_of_canonical {cs : List Char} {n : Int} (h : Canonical cs)
    (hn : Numeral cs n) : (toString n).toList = cs := by
  rw [toList_toString]
  cases h with
  | zero =>
      rw [← hn.value_eq]
      rfl
  | @positive d ds hd hne hds =>
      have hvalue := hn.value_eq
      rw [Sign.cut_of_isDigit hd] at hvalue
      simp only [Sign.apply] at hvalue
      rw [if_neg (by omega), ← hvalue, Int.natAbs_natCast, List.nil_append,
        toDigits_ofDigitChars_cons hd hne hds]
  | @negative d ds hd hne hds =>
      have hvalue := hn.value_eq
      simp only [Sign.cut, Sign.apply] at hvalue
      have hpos : 0 < Nat.ofDigitChars 10 (d :: ds) 0 := by
        refine Nat.pos_of_ne_zero fun hzero => hne ?_
        have hdigits := toDigits_ofDigitChars_cons hd hne hds
        rw [hzero, Nat.toDigits_zero, List.cons.injEq] at hdigits
        exact hdigits.1.symm
      rw [if_pos (by omega), ← hvalue, Int.natAbs_neg, Int.natAbs_natCast, List.singleton_append,
        toDigits_ofDigitChars_cons hd hne hds]

/-- Each integer has one canonical numeral, which is its written form. -/
theorem toList_toString_eq_iff {cs : List Char} {n : Int} :
    (toString n).toList = cs ↔ Canonical cs ∧ Numeral cs n := by
  constructor
  · intro h
    subst h
    exact ⟨canonical_toString n, numeral_toString n⟩
  · intro h
    exact toList_toString_of_canonical h.1 h.2

end Almanac.Decimal
