import Almanac.Ledger.Entry
import Almanac.Proofs.Numeral
import Mathlib.Data.List.TakeDrop

/-!
# Almanac.Proofs.Line

The text of an entry: `Entry.ofLine` reads exactly what `Entry.line` writes (`ofLine_eq_ok_iff`).

A written number holds no tab, so the first tab of a written line is the one between the columns.
Conversely a line is cut at its first tab, and its number is only accepted in the form in which
`Entry.line` writes it, so nothing of the text is lost.
-/

namespace Almanac.Entry

/-! ## columns -/

/-- Cutting at the first tab finds the one behind a text without tabs. -/
theorem span_append_tab {cs rest : List Char} (h : '\t' ∉ cs) :
    (cs ++ '\t' :: rest).span (· != '\t') = (cs, '\t' :: rest) := by
  have hcs : ∀ c ∈ cs, (c != '\t') = true := by
    intro c hc
    rw [bne_iff_ne]
    intro heq
    subst heq
    contradiction
  rw [List.span_eq_takeWhile_dropWhile, List.takeWhile_append_of_pos hcs,
    List.dropWhile_append_of_pos hcs]
  simp

/-- What is cut at the first tab is put together again with a tab. -/
theorem eq_append_tab_of_span {cs pre rest : List Char} {c : Char}
    (h : cs.span (· != '\t') = (pre, c :: rest)) : cs = pre ++ '\t' :: rest := by
  rw [List.span_eq_takeWhile_dropWhile, Prod.mk.injEq] at h
  obtain ⟨hpre, hrest⟩ := h
  have hc : c = '\t' := by
    have hhead := List.head?_dropWhile_not (· != '\t') cs
    rw [hrest] at hhead
    simpa using hhead
  rw [← List.takeWhile_append_dropWhile (p := (· != '\t')) (l := cs), hpre, hrest, hc]

/-- A written number holds no tab. -/
theorem tab_not_mem_toString (n : Int) : '\t' ∉ (toString n).toList := by
  intro h
  obtain h | h := Decimal.isDigit_or_eq_of_mem_toString h <;> contradiction

theorem toList_line (e : Entry) :
    e.line.toList = (toString e.secs).toList ++ '\t' :: e.stamp.toList := by
  simp [line]

/-! ## reading a line -/

/-- What is read of a line whose first column is a number. -/
theorem ofLine_of_span {text : String} {pre stamp : List Char} {c : Char} {secs : Int}
    (hspan : text.toList.span (· != '\t') = (pre, c :: stamp))
    (hread : Decimal.readInt64 pre = .ok secs) :
    ofLine text =
      if toString secs ≠ String.ofList pre then .error (.notCanonical (String.ofList pre))
      else if stamp.isEmpty then .error .noStamp
      else .ok ⟨secs, String.ofList stamp, Decimal.fitsInt64_of_readInt64 hread⟩ := by
  simp only [ofLine]
  split
  · next hcol =>
      rw [hspan] at hcol
      contradiction
  · next c' stamp' hcol =>
      rw [hspan, List.cons.injEq] at hcol
      obtain ⟨-, rfl⟩ := hcol
      split
      · next fault hfault =>
          rw [hspan, hread] at hfault
          contradiction
      · next secs' hsecs =>
          rw [hspan, hread, Except.ok.injEq] at hsecs
          subst hsecs
          simp only [hspan]

/-- A line whose first column is no number is refused. -/
theorem ofLine_of_span_error {text : String} {pre stamp : List Char} {c : Char}
    {fault : Decimal.Fault} (hspan : text.toList.span (· != '\t') = (pre, c :: stamp))
    (hread : Decimal.readInt64 pre = .error fault) :
    ofLine text = .error (.notANumber (String.ofList pre) fault) := by
  simp only [ofLine]
  split
  · next hcol =>
      rw [hspan] at hcol
      contradiction
  · split
    · next fault' hfault =>
        rw [hspan, hread, Except.error.injEq] at hfault
        rw [hspan, hfault]
    · next secs' hsecs =>
        rw [hspan, hread] at hsecs
        contradiction

/-- A written entry is read back, if something stands behind its tab. -/
theorem ofLine_line {e : Entry} (h : e.stamp ≠ "") : ofLine e.line = .ok e := by
  have hspan : e.line.toList.span (· != '\t') =
      ((toString e.secs).toList, '\t' :: e.stamp.toList) := by
    rw [toList_line, span_append_tab (tab_not_mem_toString _)]
  have hne : ¬ e.stamp.toList.isEmpty = true := by
    rw [List.isEmpty_iff, String.toList_eq_nil_iff]
    exact h
  rw [ofLine_of_span hspan (Decimal.readInt64_toString e.secs_fits), String.ofList_toList,
    if_neg (not_not_intro rfl), if_neg hne]
  simp only [String.ofList_toList]

/-- A line that is read is the one that its entry is written as. -/
theorem eq_line_of_ofLine {text : String} {e : Entry} (h : ofLine text = .ok e) :
    text = e.line ∧ e.stamp ≠ "" := by
  cases hspan : text.toList.span (· != '\t') with
  | mk pre rest =>
      cases rest with
      | nil =>
          simp only [ofLine, hspan] at h
          contradiction
      | cons c stamp =>
          cases hread : Decimal.readInt64 pre with
          | error fault =>
              rw [ofLine_of_span_error hspan hread] at h
              contradiction
          | ok secs =>
              rw [ofLine_of_span hspan hread] at h
              have htext := eq_append_tab_of_span hspan
              split at h
              · contradiction
              · next hcanon =>
                  split at h
                  · contradiction
                  · next hne =>
                      rw [Except.ok.injEq] at h
                      subst h
                      rw [not_not] at hcanon
                      constructor
                      · rw [← String.toList_inj, toList_line, htext]
                        simp [hcanon]
                      · simpa using hne

/-- Exactly the written lines are read. -/
theorem ofLine_eq_ok_iff {text : String} {e : Entry} :
    ofLine text = .ok e ↔ text = e.line ∧ e.stamp ≠ "" := by
  constructor
  · exact eq_line_of_ofLine
  · intro h
    rw [h.1]
    exact ofLine_line h.2

end Almanac.Entry
