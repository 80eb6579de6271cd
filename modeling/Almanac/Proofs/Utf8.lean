import Almanac.Ledger.Reading

/-!
# Almanac.Proofs.Utf8

The bytes of a text.  A text is determined by its bytes, and `Ledger.text` reads it from no others
(`text_eq_ok_iff`).  The byte of a newline stands in them for the character only
(`newline_mem_utf8_iff`): characters beyond ASCII are made of bytes from `0x80` on.
-/

namespace Almanac.Ledger

/-- The bytes of a text. -/
def utf8 (s : String) : List UInt8 := s.toUTF8.data.toList

/-- A text is encoded character by character. -/
theorem utf8_eq_flatMap (s : String) : utf8 s = s.toList.flatMap String.utf8EncodeChar := by
  rw [utf8, String.toUTF8_eq_toByteArray, ← String.utf8Encode_toList]
  exact List.toList_data_toByteArray

theorem utf8_append (s t : String) : utf8 (s ++ t) = utf8 s ++ utf8 t := by
  simp only [utf8_eq_flatMap, String.toList_append, List.flatMap_append]

theorem utf8_newline : utf8 "\n" = [newline] := by
  rw [utf8_eq_flatMap]
  decide

/-- Cut off anywhere, the bytes are those of whole characters and at most three of the next. -/
theorem exists_take_utf8 (s : String) (n : Nat) :
    ∃ (front : String) (rest : List UInt8),
      (utf8 s).take n = utf8 front ++ rest ∧ rest.length ≤ 3 := by
  rw [utf8_eq_flatMap]
  induction s.toList generalizing n with
  | nil => exact ⟨"", [], by simp [utf8_eq_flatMap]⟩
  | cons c cs ih =>
      have hsize : (String.utf8EncodeChar c).length ≤ 4 := by
        rw [String.length_utf8EncodeChar]
        exact c.utf8Size_le_four
      rw [List.flatMap_cons, List.take_append]
      by_cases hn : (String.utf8EncodeChar c).length ≤ n
      · obtain ⟨front, rest, hfront, hrest⟩ := ih (n - (String.utf8EncodeChar c).length)
        refine ⟨String.ofList (c :: front.toList), rest, ?_, hrest⟩
        rw [List.take_of_length_le hn, hfront, utf8_eq_flatMap front, utf8_eq_flatMap,
          String.toList_ofList, List.flatMap_cons, List.append_assoc]
      · refine ⟨"", (String.utf8EncodeChar c).take n, ?_, by rw [List.length_take]; omega⟩
        have hnone : n - (String.utf8EncodeChar c).length = 0 := by omega
        rw [hnone, List.take_zero, List.append_nil]
        rfl

/-! ## newlines -/

/-- More bits make a byte no smaller. -/
theorem newline_lt_or {x y : UInt8} (h : newline < y) : newline < x ||| y := by
  rw [UInt8.lt_iff_toNat_lt] at h ⊢
  rw [UInt8.toNat_or]
  exact Nat.lt_of_lt_of_le h Nat.right_le_or

/-- The bytes of a character beyond ASCII have their highest bit. -/
theorem newline_lt_of_mem {c : Char} {b : UInt8} (h : c.utf8Size ≠ 1)
    (hb : b ∈ String.utf8EncodeChar c) : newline < b := by
  obtain h1 | h2 | h3 | h4 := Char.utf8Size_eq c
  · contradiction
  · simp only [String.utf8EncodeChar_eq_cons_cons h2, List.mem_cons, List.not_mem_nil,
      or_false] at hb
    obtain hb | hb := hb <;> rw [hb] <;> exact newline_lt_or (by decide)
  · simp only [String.utf8EncodeChar_eq_cons_cons_cons h3, List.mem_cons, List.not_mem_nil,
      or_false] at hb
    obtain hb | hb | hb := hb <;> rw [hb] <;> exact newline_lt_or (by decide)
  · simp only [String.utf8EncodeChar_eq_cons_cons_cons_cons h4, List.mem_cons, List.not_mem_nil,
      or_false] at hb
    obtain hb | hb | hb | hb := hb <;> rw [hb] <;> exact newline_lt_or (by decide)

/-- A character of one byte is this byte. -/
theorem newline_eq_toUInt8_iff {c : Char} (h : c.utf8Size = 1) :
    newline = c.val.toUInt8 ↔ c = '\n' := by
  rw [Char.utf8Size_eq_one_iff, UInt32.le_iff_toNat_le] at h
  rw [← UInt8.toNat_inj, UInt32.toNat_toUInt8, ← Char.val_inj, ← UInt32.toNat_inj]
  change c.val.toNat ≤ 127 at h
  change 10 = c.val.toNat % 2 ^ 8 ↔ c.val.toNat = 10
  omega

/-- Among the characters, only the newline holds the byte of the newline. -/
theorem newline_mem_utf8EncodeChar_iff {c : Char} :
    newline ∈ String.utf8EncodeChar c ↔ c = '\n' := by
  by_cases h : c.utf8Size = 1
  · rw [String.utf8EncodeChar_eq_singleton h, List.mem_singleton, newline_eq_toUInt8_iff h]
  · constructor
    · intro hmem
      exact absurd (newline_lt_of_mem h hmem) (UInt8.lt_irrefl newline)
    · intro hc
      subst hc
      contradiction

/-- The byte of the newline stands for the newline only. -/
theorem newline_mem_utf8_iff {s : String} : newline ∈ utf8 s ↔ '\n' ∈ s.toList := by
  rw [utf8_eq_flatMap, List.mem_flatMap]
  constructor
  · intro h
    obtain ⟨c, hc, hmem⟩ := h
    rw [newline_mem_utf8EncodeChar_iff] at hmem
    rwa [← hmem]
  · intro h
    exact ⟨'\n', h, newline_mem_utf8EncodeChar_iff.2 rfl⟩

/-! ## texts -/

/-- Bytes are a text when they are the bytes of it. -/
theorem fromUTF8?_eq_some_iff {b : ByteArray} {s : String} :
    String.fromUTF8? b = some s ↔ b = s.toUTF8 := by
  unfold String.fromUTF8?
  by_cases h : b.IsValidUTF8
  · rw [dif_pos h]
    simp only [Option.some.injEq, ← String.toByteArray_inj]
    rfl
  · rw [dif_neg h]
    simp only [reduceCtorEq, false_iff]
    intro heq
    rw [heq] at h
    exact h s.isValidUTF8

/-- Bytes are read as a text when they are the bytes of it. -/
theorem text_eq_ok_iff {bs : List UInt8} {s : String} : text bs = .ok s ↔ bs = utf8 s := by
  have hbytes : bs = utf8 s ↔ bs.toByteArray = s.toUTF8 := by
    rw [utf8, ByteArray.ext_iff, ← Array.toList_inj, List.toList_data_toByteArray]
  rw [hbytes, ← fromUTF8?_eq_some_iff, text]
  cases String.fromUTF8? bs.toByteArray <;> simp

end Almanac.Ledger
