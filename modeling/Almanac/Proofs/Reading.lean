import Almanac.Proofs.Line
import Almanac.Proofs.Outcome
import Almanac.Proofs.Utf8
import Mathlib.Data.List.Basic

/-!
# Almanac.Proofs.Reading

What is read of a stream that does not fail: the entries whose lines its bytes are, one behind the
other.

1. `cutLines_eq_iff` — cutting finds the lines that the bytes are put together of;
2. `readLine_eq_ok_iff` — a line is read to the entry that is written as it;
3. `readLines_eq_ok_iff` — the same of all lines, by induction on them;
4. `read_bytes` and `bytes_of_read` — the two directions for a whole stream, and
   `read_accepts_exactly_lines` both of them.

Some entries have no line that can be read.  `Entry.Readable` says which ones have.
-/

namespace Almanac

/-- An entry that can be read back from its line: its text is one, and the end of the line is where
it was put. -/
structure Entry.Readable (e : Entry) : Prop where
  stamp_ne : e.stamp ≠ ""
  no_newline : '\n' ∉ e.stamp.toList
  no_return : e.stamp.toList.getLast? ≠ some '\r'

namespace Ledger

/-! ## lines -/

/-- Lines with their newlines. -/
def joinLines (lines : List (List UInt8)) : List UInt8 := lines.flatMap (· ++ [newline])

theorem joinLines_cons (l : List UInt8) (lines : List (List UInt8)) (rest : List UInt8) :
    joinLines (l :: lines) ++ rest = l ++ newline :: (joinLines lines ++ rest) := by
  simp [joinLines]

/-- Bytes without a newline belong to the current line. -/
theorem cutLinesOnto_append {l : List UInt8} (h : newline ∉ l) (done : Array (List UInt8))
    (current rest : List UInt8) :
    cutLinesOnto done current (l ++ rest) = cutLinesOnto done (l.reverse ++ current) rest := by
  induction l generalizing current with
  | nil => rfl
  | cons b l ih =>
      rw [List.mem_cons, not_or] at h
      obtain ⟨hb, hl⟩ := h
      rw [List.cons_append, cutLinesOnto, if_neg (Ne.symm hb), ih hl, List.reverse_cons,
        List.append_assoc, List.singleton_append]

/-- A newline finishes the current line. -/
theorem cutLinesOnto_newline (done : Array (List UInt8)) (current rest : List UInt8) :
    cutLinesOnto done current (newline :: rest) =
      cutLinesOnto (done.push current.reverse) [] rest := by
  rw [cutLinesOnto, if_pos rfl]

/-- Lines that were put together are cut apart again. -/
theorem cutLinesOnto_joinLines {lines : List (List UInt8)} {rest : List UInt8}
    (hl : ∀ l ∈ lines, newline ∉ l) (hr : newline ∉ rest) (done : Array (List UInt8)) :
    cutLinesOnto done [] (joinLines lines ++ rest) = (done.toList ++ lines, rest) := by
  induction lines generalizing done with
  | nil =>
      have hcut := cutLinesOnto_append hr done [] []
      rw [List.append_nil, List.append_nil] at hcut
      rw [joinLines, List.flatMap_nil, List.nil_append, hcut, cutLinesOnto, List.reverse_reverse,
        List.append_nil]
  | cons l lines ih =>
      obtain ⟨h, hls⟩ := List.forall_mem_cons.1 hl
      rw [joinLines_cons, cutLinesOnto_append h, cutLinesOnto_newline, List.append_nil,
        List.reverse_reverse, ih hls, Array.toList_push, List.append_assoc, List.singleton_append]

/-- All bytes are put together of lines and a rest. -/
theorem exists_joinLines (bs : List UInt8) :
    ∃ lines rest, (∀ l ∈ lines, newline ∉ l) ∧ newline ∉ rest ∧ bs = joinLines lines ++ rest := by
  induction bs with
  | nil => exact ⟨[], [], by simp [joinLines]⟩
  | cons b bs ih =>
      obtain ⟨lines, rest, hl, hr, hbs⟩ := ih
      by_cases hb : newline = b
      · refine ⟨[] :: lines, rest, ?_, hr, ?_⟩
        · simpa using hl
        · rw [joinLines_cons, ← hbs, hb, List.nil_append]
      · -- The byte stands in front of the first line, or of the rest if there is none.
        cases lines with
        | nil =>
            refine ⟨[], b :: rest, hl, ?_, ?_⟩
            · simp [hb, hr]
            · rw [hbs]
              rfl
        | cons l lines =>
            obtain ⟨h, hls⟩ := List.forall_mem_cons.1 hl
            refine ⟨(b :: l) :: lines, rest, ?_, hr, ?_⟩
            · simpa [hb, h] using hls
            · rw [hbs, joinLines_cons, joinLines_cons, List.cons_append]

/-- Cutting finds the lines and the rest that bytes are put together of. -/
theorem cutLines_eq_iff {bs : List UInt8} {lines : List (List UInt8)} {rest : List UInt8} :
    cutLines bs = (lines, rest) ↔
      (∀ l ∈ lines, newline ∉ l) ∧ newline ∉ rest ∧ bs = joinLines lines ++ rest := by
  constructor
  · intro h
    obtain ⟨lines', rest', hl, hr, hbs⟩ := exists_joinLines bs
    rw [hbs, cutLines, cutLinesOnto_joinLines hl hr, List.nil_append, Prod.mk.injEq] at h
    obtain ⟨hlines, hrest⟩ := h
    rw [← hlines, ← hrest]
    exact ⟨hl, hr, hbs⟩
  · intro h
    obtain ⟨hl, hr, hbs⟩ := h
    rw [hbs, cutLines, cutLinesOnto_joinLines hl hr, List.nil_append]

/-! ## one line -/

/-- A line ends as its text behind the tab. -/
theorem getLast?_line {e : Entry} (h : e.stamp ≠ "") :
    e.line.toList.getLast? = e.stamp.toList.getLast? := by
  have hne : e.stamp.toList ≠ [] := by simpa using h
  rw [Entry.toList_line, List.getLast?_append_of_ne_nil _ (List.cons_ne_nil _ _),
    List.getLast?_cons_of_ne_nil hne]

/-- A line, whatever its number, is read to the entry that is written as it. -/
theorem readLine_eq_ok_iff {n : Nat} {bs : List UInt8} {e : Entry} :
    readLine n bs = .ok e ↔
      bs = utf8 e.line ∧ e.stamp ≠ "" ∧ e.stamp.toList.getLast? ≠ some '\r' := by
  unfold readLine
  simp only [Outcome.bind_eq_ok_iff, Outcome.guard_eq_ok_iff, Outcome.mapError_eq_ok_iff,
    text_eq_ok_iff, Entry.ofLine_eq_ok_iff]
  constructor
  · intro h
    obtain ⟨text, hbs, hlast, htext, hne⟩ := h
    rw [htext, getLast?_line hne] at hlast
    exact ⟨by rw [hbs, htext], hne, hlast⟩
  · intro h
    obtain ⟨hbs, hne, hlast⟩ := h
    exact ⟨e.line, hbs, by rwa [getLast?_line hne], rfl, hne⟩

/-- A line holds a newline when the text behind its tab does. -/
theorem newline_mem_utf8_line_iff {e : Entry} :
    newline ∈ utf8 e.line ↔ '\n' ∈ e.stamp.toList := by
  have hsecs : '\n' ∉ (toString e.secs).toList := by
    intro h
    obtain h | h := Decimal.isDigit_or_eq_of_mem_toString h <;> contradiction
  rw [newline_mem_utf8_iff, Entry.toList_line, List.mem_append, List.mem_cons]
  constructor
  · intro h
    obtain h | h | h := h
    · contradiction
    · contradiction
    · exact h
  · intro h
    exact .inr (.inr h)

/-! ## all lines -/

/-- Lines, whatever the number of the first one, are read to the entries that are written as
them. -/
theorem readLines_eq_ok_iff {n : Nat} {lines : List (List UInt8)} {es : List Entry} :
    readLines n lines = .ok es ↔
      lines = es.map (fun e => utf8 e.line) ∧
        ∀ e ∈ es, e.stamp ≠ "" ∧ e.stamp.toList.getLast? ≠ some '\r' := by
  induction lines generalizing n es with
  | nil =>
      simp only [readLines, List.zipIdx_nil, List.mapM_nil, Outcome.pure_eq_ok_iff]
      cases es <;> simp
  | cons bs lines ih =>
      unfold readLines at ih ⊢
      simp only [List.zipIdx_cons, List.mapM_cons, Outcome.bind_eq_ok_iff, Outcome.pure_eq_ok_iff,
        readLine_eq_ok_iff, ih]
      constructor
      · intro h
        obtain ⟨e, ⟨hbs, he⟩, es', ⟨hlines, hes⟩, heq⟩ := h
        subst heq
        rw [List.map_cons, hbs, hlines, List.forall_mem_cons]
        exact ⟨rfl, he, hes⟩
      · intro h
        obtain ⟨hlines, hes⟩ := h
        cases es with
        | nil => contradiction
        | cons e es =>
            rw [List.map_cons, List.cons.injEq] at hlines
            obtain ⟨he, hes⟩ := List.forall_mem_cons.1 hes
            exact ⟨e, ⟨hlines.1, he⟩, es, ⟨hlines.2, hes⟩, rfl⟩

/-! ## streams -/

/-- Nothing follows the last line of a stream that did not fail. -/
theorem readRest_eq_ok_iff {n : Nat} {rest : List UInt8} {u : Unit} :
    readRest n rest none = .ok u ↔ rest = [] := by
  unfold readRest
  simp only [Outcome.bind_eq_ok_iff, Outcome.require_eq_ok_iff, Outcome.pure_eq_ok_iff,
    text_eq_ok_iff, and_true]
  constructor
  · intro h
    obtain ⟨text, hrest, hempty⟩ := h
    rw [String.isEmpty_iff] at hempty
    rw [hrest, hempty]
    rfl
  · intro h
    exact ⟨"", h, rfl⟩

/-- A stream is cut, its lines are read, and nothing follows them. -/
theorem read_eq_ok_iff {b : ByteArray} {es : List Entry} :
    read ⟨b, none⟩ = .ok es ↔
      ∃ lines, cutLines b.data.toList = (lines, []) ∧ readLines 1 lines = .ok es := by
  unfold read
  cases hcut : cutLines b.data.toList with
  | mk lines rest =>
      simp only [Outcome.bind_eq_ok_iff, Outcome.pure_eq_ok_iff, readRest_eq_ok_iff]
      constructor
      · intro h
        obtain ⟨es', hes, -, hrest, heq⟩ := h
        exact ⟨lines, by rw [hrest], heq ▸ hes⟩
      · intro h
        obtain ⟨lines', heq, hes⟩ := h
        rw [Prod.mk.injEq] at heq
        exact ⟨es, heq.1 ▸ hes, (), heq.2, rfl⟩

/-- The bytes of an entry are its line and a newline. -/
theorem toList_bytes (e : Entry) : e.bytes.data.toList = utf8 e.line ++ [newline] := by
  rw [← utf8_newline, ← utf8_append]
  rfl

/-- The bytes of entries are their lines with newlines. -/
theorem flatMap_bytes (es : List Entry) :
    es.flatMap (fun e => e.bytes.data.toList) = joinLines (es.map fun e => utf8 e.line) := by
  simp only [joinLines, List.flatMap_map, toList_bytes]

/-- The bytes of entries that can be read back are read to them. -/
theorem read_bytes {b : ByteArray} {es : List Entry} (hes : ∀ e ∈ es, e.Readable)
    (hb : b.data.toList = es.flatMap fun e => e.bytes.data.toList) :
    read ⟨b, none⟩ = .ok es := by
  rw [read_eq_ok_iff]
  refine ⟨es.map fun e => utf8 e.line, ?_, ?_⟩
  · rw [cutLines_eq_iff, hb, flatMap_bytes, List.append_nil, List.forall_mem_map]
    refine ⟨fun e he => ?_, List.not_mem_nil, rfl⟩
    rw [newline_mem_utf8_line_iff]
    exact (hes e he).no_newline
  · rw [readLines_eq_ok_iff]
    exact ⟨rfl, fun e he => ⟨(hes e he).stamp_ne, (hes e he).no_return⟩⟩

/-- A stream that is read holds the bytes of its entries, which can be read back. -/
theorem bytes_of_read {b : ByteArray} {es : List Entry} (h : read ⟨b, none⟩ = .ok es) :
    b.data.toList = (es.flatMap fun e => e.bytes.data.toList) ∧ ∀ e ∈ es, e.Readable := by
  obtain ⟨lines, hcut, hread⟩ := read_eq_ok_iff.1 h
  obtain ⟨hl, -, hb⟩ := cutLines_eq_iff.1 hcut
  obtain ⟨hlines, hes⟩ := readLines_eq_ok_iff.1 hread
  rw [hlines, List.forall_mem_map] at hl
  constructor
  · rw [hb, hlines, flatMap_bytes, List.append_nil]
  · intro e he
    have hnewline := hl e he
    rw [newline_mem_utf8_line_iff] at hnewline
    exact ⟨(hes e he).1, hnewline, (hes e he).2⟩

/-- Bytes are read to entries exactly when they are the entries' lines in UTF-8, each with a newline
behind it, and the text behind the tab of each line is not empty, holds no newline and does not end
in a carriage return. -/
theorem read_accepts_exactly_lines {b : ByteArray} {es : List Entry} :
    read ⟨b, none⟩ = .ok es ↔
      b.data.toList = (es.flatMap fun e => e.line.toUTF8.data.toList ++ [newline]) ∧
        ∀ e ∈ es, e.stamp ≠ "" ∧ '\n' ∉ e.stamp.toList ∧ e.stamp.toList.getLast? ≠ some '\r' := by
  have hlines : (es.flatMap fun e => e.line.toUTF8.data.toList ++ [newline]) =
      es.flatMap fun e => e.bytes.data.toList := by
    simp only [toList_bytes, utf8]
  rw [hlines]
  constructor
  · intro h
    obtain ⟨hb, hes⟩ := bytes_of_read h
    exact ⟨hb, fun e he => ⟨(hes e he).stamp_ne, (hes e he).no_newline, (hes e he).no_return⟩⟩
  · intro h
    obtain ⟨hb, hes⟩ := h
    exact read_bytes (fun e he => ⟨(hes e he).1, (hes e he).2.1, (hes e he).2.2⟩) hb

/-- Tabs and carriage returns inside of the text are read as they stand. -/
example : (read ⟨"0\ta\tb\rc\n".toUTF8, none⟩).map (·.map (·.stamp)) = .ok ["a\tb\rc"] := by
  decide +kernel

end Ledger

end Almanac
