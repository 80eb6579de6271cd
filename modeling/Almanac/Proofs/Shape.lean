import Almanac.Text.Shape

/-!
# Almanac.Proofs.Shape

The two forms of a value say the same: spread out it has the characters of the form on one line, in
their order, and differs in blanks, newlines and commas only (`Shape.essence_spread`).  The
induction is the recursion of the printers, over values, lists of arguments and lists of fields at
once, with a nesting depth that may grow.
-/

namespace Almanac.Shape

/-- The characters of a text but blanks, newlines and commas. -/
def essence (text : String) : List Char := text.toList.filter fun c => c ∉ [' ', '\n', ',']

theorem essence_append (a b : String) : essence (a ++ b) = essence a ++ essence b := by
  rw [essence, String.toList_append, List.filter_append, essence, essence]

theorem essence_margin (depth : Nat) : essence (margin depth) = [] := by
  rw [margin]
  generalize 4 * depth = blanks
  induction blanks with
  | zero => rfl
  | succ blanks ih =>
      rw [String.pushn_eq_repeat_push] at ih ⊢
      rw [Nat.repeat, ← String.append_singleton, essence_append, ih, essence]
      simp

/-- The commas between parts are left out. -/
theorem essence_intercalate (parts : List String) :
    essence (", ".intercalate parts) = parts.flatMap essence := by
  induction parts with
  | nil => rw [String.intercalate_nil]; rfl
  | cons part rest ih =>
      cases rest with
      | nil => rw [String.intercalate_singleton, List.flatMap_singleton]
      | cons next rest =>
          have hcomma : essence ", " = [] := by simp [essence]
          rw [String.intercalate_cons_cons, essence_append, essence_append, ih, hcomma,
            List.append_nil, List.flatMap_cons, List.flatMap_cons, List.flatMap_cons]

mutual

/-- The two forms differ in blanks, newlines and commas only. -/
theorem essence_spreadAt (depth : Nat) :
    ∀ s : Shape, essence (s.spreadAt depth) = essence s.inline
  | .word _ => rfl
  | .tuple name arguments => by
      have hopen : essence "(\n" = essence "(" := by simp [essence]
      simp only [spreadAt, inline, essence_append, essence_margin, essence_intercalate,
        essence_spreadAll (depth + 1) arguments, hopen, List.append_nil]
  | .fields name labelled => by
      have hopen : essence " \x7b\n" = essence " \x7b " := by simp [essence]
      have hclose : essence "\x7d" = essence " \x7d" := by simp [essence]
      simp only [spreadAt, inline, essence_append, essence_margin, essence_intercalate,
        essence_spreadFields (depth + 1) labelled, hopen, hclose, List.append_nil]

theorem essence_spreadAll (depth : Nat) :
    ∀ arguments : List Shape,
      essence (spreadAll depth arguments) = (inlineAll arguments).flatMap essence
  | [] => rfl
  | s :: rest => by
      have hend : essence ",\n" = [] := by simp [essence]
      simp only [spreadAll, inlineAll, essence_append, essence_margin, essence_spreadAt depth s,
        essence_spreadAll depth rest, hend, List.nil_append, List.append_nil, List.flatMap_cons]

theorem essence_spreadFields (depth : Nat) :
    ∀ labelled : List (String × Shape),
      essence (spreadFields depth labelled) = (inlineFields labelled).flatMap essence
  | [] => rfl
  | (label, s) :: rest => by
      have hend : essence ",\n" = [] := by simp [essence]
      simp only [spreadFields, inlineFields, essence_append, essence_margin,
        essence_spreadAt depth s, essence_spreadFields depth rest, hend, List.nil_append,
        List.append_nil, List.flatMap_cons]

end

theorem essence_spread (s : Shape) : essence s.spread = essence s.inline := essence_spreadAt 0 s

end Almanac.Shape
