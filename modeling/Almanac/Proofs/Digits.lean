import Almanac.Text.Decimal
import Mathlib.Data.List.Basic
import Mathlib.Tactic.IntervalCases

/-!
# Almanac.Proofs.Digits

The digits of written numbers, fields as wide as their numbers are small
(`Decimal.length_padded_of_lt`), and the reading of digits.

A written integer is a sign and the digits of its magnitude.  Reading weighs digits from the left.
It compares the limit with every value on the way, which never exceeds the last one.
-/

namespace Almanac.Decimal

/-! ## written integers -/

/-- An integer is written as a `-` if it is negative, and the digits of its magnitude. -/
theorem toList_toString (n : Int) :
    (toString n).toList = (if n < 0 then ['-'] else []) ++ Nat.toDigits 10 n.natAbs := by
  rw [Int.toString_eq_repr, Int.repr_eq_if]
  by_cases hn : 0 ≤ n
  · have habs : n.toNat = n.natAbs := by omega
    rw [if_pos hn, if_neg (by omega), Nat.toList_repr, habs, List.nil_append]
  · have habs : (-n).toNat = n.natAbs := by omega
    rw [if_neg hn, if_pos (by omega), String.toList_append, Nat.toList_repr, habs]
    rfl

theorem isDigit_of_mem_digits {n : Nat} {c : Char} (h : c ∈ Nat.toDigits 10 n) : c.isDigit :=
  Nat.isDigit_of_mem_toDigits (by decide) (by decide) h

/-- A written integer holds nothing but digits and a sign. -/
theorem isDigit_or_eq_of_mem_toString {n : Int} {c : Char} (h : c ∈ (toString n).toList) :
    c.isDigit ∨ c = '-' := by
  rw [toList_toString, List.mem_append] at h
  obtain h | h := h
  · split at h
    · exact .inr (List.mem_singleton.1 h)
    · contradiction
  · exact .inl (isDigit_of_mem_digits h)

/-- The digits of a field are those of its number and zeros. -/
theorem isDigit_of_mem_padded {width n : Nat} {c : Char} (h : c ∈ padded width n) : c.isDigit := by
  rw [padded, List.mem_append] at h
  obtain h | h := h
  · rw [(List.mem_replicate.1 h).2]
    rfl
  · exact isDigit_of_mem_digits h

/-! ## fields -/

/-- Zeros in front do not change the number. -/
theorem ofDigitChars_padded (width n : Nat) : Nat.ofDigitChars 10 (padded width n) 0 = n := by
  simp [padded, Nat.ofDigitChars_append, Nat.ofDigitChars_replicate_zero]

/-- A number that is small enough fills its field exactly. -/
theorem length_padded_of_lt {width n : Nat} (hw : 0 < width) (h : n < 10 ^ width) :
    (padded width n).length = width := by
  have hlen := (Nat.length_toDigits_le_iff (by decide) hw).2 h
  rw [length_padded, Nat.max_eq_left hlen]

/-- A number begins with a zero only if it is zero. -/
theorem head?_toDigits_ne_zero {n : Nat} (h : 0 < n) : (Nat.toDigits 10 n).head? ≠ some '0' := by
  induction n using Nat.strongRecOn with
  | ind n ih =>
      by_cases hn : n < 10
      · rw [Nat.toDigits_of_lt_base hn]
        interval_cases n <;> decide
      · rw [Nat.toDigits_of_base_le (by decide) (Nat.le_of_not_lt hn),
          List.head?_append_of_ne_nil _ Nat.toDigits_ne_nil]
        exact ih (n / 10) (by omega) (by omega)

/-- A number that is longer than its field is not filled up. -/
theorem head?_padded_ne_zero {width n : Nat} (hw : 0 < width)
    (h : width < (padded width n).length) : (padded width n).head? ≠ some '0' := by
  have hlen : width < (Nat.toDigits 10 n).length := by
    rw [length_padded] at h
    omega
  have hzeros : width - (Nat.toDigits 10 n).length = 0 := by omega
  have hn : 0 < n := by
    refine Nat.pos_of_ne_zero fun h0 => ?_
    rw [h0, Nat.toDigits_zero, List.length_singleton] at hlen
    omega
  simpa [padded, hzeros] using head?_toDigits_ne_zero hn

/-- The last digit of a number stands at the end of its field. -/
theorem exists_padded_eq_concat (width n : Nat) :
    ∃ cs, padded width n = cs ++ [Nat.digitChar (n % 10)] := by
  by_cases hn : n < 10
  · rw [padded, Nat.toDigits_of_lt_base hn, Nat.mod_eq_of_lt hn]
    exact ⟨_, rfl⟩
  · rw [padded, Nat.toDigits_of_base_le (by decide) (Nat.le_of_not_lt hn), ← List.append_assoc]
    exact ⟨_, rfl⟩

/-- The digits in front of the last one are those of the tenth part. -/
theorem padded_succ {width n : Nat} (h : 10 ≤ n) :
    padded (width + 1) n = padded width (n / 10) ++ [Nat.digitChar (n % 10)] := by
  simp only [padded, Nat.toDigits_of_base_le (by decide) h, List.length_append,
    List.length_singleton, Nat.add_sub_add_right, List.append_assoc]

theorem digitChar_ne_zero {d : Nat} (hpos : d ≠ 0) (h : d < 10) : Nat.digitChar d ≠ '0' := by
  interval_cases d
  · exact absurd rfl hpos
  all_goals decide
/-! ## reading -/

/-- Weighing more digits makes a value no smaller. -/
theorem le_ofDigitChars (cs : List Char) (value : Nat) : value ≤ Nat.ofDigitChars 10 cs value := by
  rw [Nat.ofDigitChars_eq_ofDigitChars_zero]
  have hpow : 1 * value ≤ 10 ^ cs.length * value :=
    Nat.mul_le_mul_right value (Nat.pow_pos (by decide))
  omega

/-- Digits whose weighed sum stays in the limit are read, whatever follows them. -/
theorem readDigits_append {limit value : Nat} {beyond : Fault} {cs rest : List Char}
    (hd : ∀ c ∈ cs, c.isDigit) (hl : Nat.ofDigitChars 10 cs value ≤ limit) :
    readDigits limit beyond value (cs ++ rest) =
      readDigits limit beyond (Nat.ofDigitChars 10 cs value) rest := by
  induction cs generalizing value with
  | nil => rfl
  | cons c cs ih =>
      obtain ⟨hc, hcs⟩ := List.forall_mem_cons.1 hd
      rw [Nat.ofDigitChars_cons, Nat.mul_comm] at hl ⊢
      have hnext := Nat.le_trans (le_ofDigitChars cs _) hl
      rw [List.cons_append, readDigits, if_pos hc]
      simp only [if_neg (Nat.not_lt.2 hnext)]
      exact ih hcs hl

/-- Digits are read to their weighed sum when it stays in the limit. -/
theorem readDigits_eq_ok {limit value : Nat} {beyond : Fault} {cs : List Char}
    (hd : ∀ c ∈ cs, c.isDigit) (hl : Nat.ofDigitChars 10 cs value ≤ limit) :
    readDigits limit beyond value cs = .ok (Nat.ofDigitChars 10 cs value) := by
  rw [← List.append_nil cs, readDigits_append hd hl, List.append_nil, readDigits]

end Almanac.Decimal
