import Almanac.Ledger.Reading
import Almanac.Proofs.Line
import Mathlib.Data.List.TakeWhile

/-!
# Almanac.Proofs.LineFault

What becomes of a text that is given as a line of a ledger.

Four checks are made, one after the other: there is a tab, the text in front of the first tab is a
signed 64-bit integer, it is so in its canonical form, and something stands behind the tab.  A text
that passes all of them is the line of one entry (`eq_line_iff_columns`).  Every other text is
reported with the first check that fails (`Refused`, `ofLine_eq_error_iff`), and both together
describe every text (`ofLine_decides_text`).
-/

namespace Almanac.Entry

/-! ## columns -/

/-- A text cut at its first tab. -/
structure Columns (text : String) (column stamp : List Char) : Prop where
  toList_eq : text.toList = column ++ '\t' :: stamp
  no_tab : '\t' ∉ column

theorem exists_columns {text : String} (h : '\t' ∈ text.toList) :
    ∃ column stamp, Columns text column stamp := by
  obtain ⟨column, stamp, heq, htab⟩ := List.eq_append_cons_of_mem h
  exact ⟨column, stamp, heq, htab⟩

theorem Columns.span_eq {text : String} {column stamp : List Char} (h : Columns text column stamp) :
    text.toList.span (· != '\t') = (column, '\t' :: stamp) := by
  rw [h.toList_eq, span_append_tab h.no_tab]

/-- The lines of entries, told by their columns: a canonical number in front of the first tab, and
at least one character behind it. -/
theorem eq_line_iff_columns {text : String} {e : Entry} :
    (text = e.line ∧ e.stamp ≠ "") ↔
      ∃ column stamp, Columns text column stamp ∧ Decimal.Canonical column ∧
        Decimal.Numeral column e.secs ∧ stamp ≠ [] ∧ e.stamp = String.ofList stamp := by
  constructor
  · intro h
    obtain ⟨rfl, hne⟩ := h
    exact ⟨(toString e.secs).toList, e.stamp.toList, ⟨toList_line e, tab_not_mem_toString _⟩,
      Decimal.canonical_toString _, Decimal.numeral_toString _, by simpa using hne,
      String.ofList_toList.symm⟩
  · intro h
    obtain ⟨column, stamp, hcut, hcanon, hnum, hne, hstamp⟩ := h
    constructor
    · rw [← String.toList_inj, toList_line, hstamp, String.toList_ofList, hcut.toList_eq,
        Decimal.toList_toString_of_canonical hcanon hnum]
    · simpa [hstamp] using hne

/-! ## faults -/

/-- What is wrong with a text that is no line, by the first check that fails. -/
inductive Refused (text : String) : LineFault → Prop
  | noTab (h : '\t' ∉ text.toList) : Refused text .noTab
  | notANumber {column stamp : List Char} {fault : Decimal.Fault} (h : Columns text column stamp)
      (hnot : ∀ n, Decimal.Numeral column n → ¬ FitsInt64 n)
      (hfault : Decimal.Misread column fault) :
      Refused text (.notANumber (String.ofList column) fault)
  | notCanonical {column stamp : List Char} {n : Int} (h : Columns text column stamp)
      (hnum : Decimal.Numeral column n) (hfits : FitsInt64 n)
      (hnot : ¬ Decimal.Canonical column) : Refused text (.notCanonical (String.ofList column))
  | noStamp {column : List Char} {n : Int} (h : Columns text column [])
      (hnum : Decimal.Numeral column n) (hfits : FitsInt64 n) (hcanon : Decimal.Canonical column) :
      Refused text .noStamp

theorem ofLine_of_no_tab {text : String} (h : '\t' ∉ text.toList) : ofLine text = .error .noTab := by
  have hspan : (text.toList.span (· != '\t')).2 = [] := by
    simp only [List.span_eq_takeWhile_dropWhile, List.dropWhile_eq_nil_iff, bne_iff_ne]
    intro c hc heq
    subst heq
    contradiction
  simp only [ofLine]
  split
  · rfl
  · next hcol =>
      rw [hspan] at hcol
      contradiction

/-- The third check compares a number with its canonical form. -/
theorem toString_eq_ofList_iff {column : List Char} {n : Int} (h : Decimal.Numeral column n) :
    toString n = String.ofList column ↔ Decimal.Canonical column := by
  rw [← String.toList_inj, String.toList_ofList, Decimal.toList_toString_eq_iff]
  exact and_iff_left h

/-- A text is refused for the first check that fails. -/
theorem ofLine_eq_error_iff {text : String} {fault : LineFault} :
    ofLine text = .error fault ↔ Refused text fault := by
  constructor
  · intro h
    by_cases htab : '\t' ∈ text.toList
    · obtain ⟨column, stamp, hcut⟩ := exists_columns htab
      cases hread : Decimal.readInt64 column with
      | error cause =>
          rw [ofLine_of_span_error hcut.span_eq hread, Except.error.injEq] at h
          subst h
          refine .notANumber hcut ?_ (Decimal.readInt64_eq_error_iff.1 hread)
          intro n hnum hfits
          rw [Decimal.readInt64_eq_ok_iff.2 ⟨hnum, hfits⟩] at hread
          contradiction
      | ok n =>
          obtain ⟨hnum, hfits⟩ := Decimal.readInt64_eq_ok_iff.1 hread
          rw [ofLine_of_span hcut.span_eq hread] at h
          split_ifs at h with hcanon hstamp
          · cases h
            rw [ne_eq, toString_eq_ofList_iff hnum] at hcanon
            exact .notCanonical hcut hnum hfits hcanon
          · cases h
            rw [not_ne_iff, toString_eq_ofList_iff hnum] at hcanon
            rw [List.isEmpty_iff] at hstamp
            subst hstamp
            exact .noStamp hcut hnum hfits hcanon
    · rw [ofLine_of_no_tab htab, Except.error.injEq] at h
      subst h
      exact .noTab htab
  · intro h
    cases h with
    | noTab h => exact ofLine_of_no_tab h
    | notANumber h _ hfault =>
        exact ofLine_of_span_error h.span_eq (Decimal.readInt64_eq_error_iff.2 hfault)
    | notCanonical h hnum hfits hnot =>
        rw [← toString_eq_ofList_iff hnum] at hnot
        rw [ofLine_of_span h.span_eq (Decimal.readInt64_eq_ok_iff.2 ⟨hnum, hfits⟩), if_pos hnot]
    | noStamp h hnum hfits hcanon =>
        rw [← toString_eq_ofList_iff hnum] at hcanon
        rw [ofLine_of_span h.span_eq (Decimal.readInt64_eq_ok_iff.2 ⟨hnum, hfits⟩),
          if_neg (not_not_intro hcanon)]
        rfl

/-! ## numbered lines -/

/-- A text that is given as the line with a number is read to an entry exactly when it is the line
of that entry and its second column is not empty.  These are the texts with a canonical number in
front of their first tab and something behind it.  Every other text is reported as a malformed line
with this number, for the first check that fails. -/
theorem ofLine_decides_text (line : Nat) (text : String) :
    (∀ e, (ofLine text).mapError (Ledger.faultAt line) = .ok e ↔ text = e.line ∧ e.stamp ≠ "") ∧
    (∀ e : Entry, (text = e.line ∧ e.stamp ≠ "") ↔
      ∃ column stamp, Columns text column stamp ∧ Decimal.Canonical column ∧
        Decimal.Numeral column e.secs ∧ stamp ≠ [] ∧ e.stamp = String.ofList stamp) ∧
    ∀ err, (ofLine text).mapError (Ledger.faultAt line) = .error err ↔
      ∃ fault, Refused text fault ∧ err = .malformedLine line fault.message := by
  refine ⟨?_, fun e => eq_line_iff_columns, ?_⟩
  · intro e
    rw [Outcome.mapError_eq_ok_iff, ofLine_eq_ok_iff]
  · intro err
    simp only [Outcome.mapError_eq_error_iff, ofLine_eq_error_iff, Ledger.faultAt]
    exact exists_congr fun fault => and_congr_right fun _ => eq_comm

/-- A negative zero is a number, but not a written one. -/
example : (ofLine "-0\ta").mapError (Ledger.faultAt 7) =
    .error (.malformedLine 7 "non-canonical epoch seconds \"-0\"") := by
  decide +kernel

end Almanac.Entry
