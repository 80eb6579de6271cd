import Almanac.Proofs.Reading
import Mathlib.Data.List.DropRight

/-!
# Almanac.Proofs.Stream

Streams in parts: what is read of a stream that goes on behind a newline, and of a stream that fails.

Bytes are *finished* when no line is begun in them: there is nothing, or a newline stands last.  What
follows finished bytes is cut as if it stood alone (`cutLines_joinLines_append`), and its lines are
read as if they were the first ones, but for the number that an error names (`readLine_add` for one
line, `readLines_add` for all of them, by induction).

* `read_append` — a stream is read part by part: first the finished bytes, then what follows them;
* `read_composes` — the same for each outcome of the two parts;
* `read_failing_stream` — a stream that fails is read up to its last newline.  A bad line before it
  is reported, or else the failure, whatever was begun behind it.
-/

namespace Almanac

/-- The error when `count` lines stand before the bytes in which it was found. -/
def LedgerError.afterLines (count : Nat) : LedgerError → LedgerError
  | .malformedLine line reason => .malformedLine (line + count) reason
  | e => e

namespace Ledger

/-! ## finished bytes -/

/-- No line is begun: there is nothing, or a newline stands last. -/
def Finished (bs : List UInt8) : Prop := bs = [] ∨ bs.getLast? = some newline

instance (bs : List UInt8) : Decidable (Finished bs) := inferInstanceAs (Decidable (_ ∨ _))

/-- Something without a newline, put behind any bytes, is not finished. -/
theorem not_finished_append {bs rest : List UInt8} (hr : newline ∉ rest) (hne : rest ≠ []) :
    ¬ Finished (bs ++ rest) := by
  have hlast : (bs ++ rest).getLast? = some (rest.getLast hne) := by
    rw [List.getLast?_append_of_ne_nil _ hne, List.getLast?_eq_getLast_of_ne_nil hne]
  have hmem := List.getLast_mem hne
  simp only [Finished, hlast, List.append_eq_nil_iff, hne, and_false, false_or, Option.some.injEq]
  intro h
  rw [h] at hmem
  contradiction

/-- Finished bytes are lines with their newlines. -/
theorem Finished.exists_lines {bs : List UInt8} (h : Finished bs) :
    ∃ lines, (∀ l ∈ lines, newline ∉ l) ∧ bs = joinLines lines := by
  obtain ⟨lines, rest, hl, hr, hbs⟩ := exists_joinLines bs
  have hnil : rest = [] := by
    by_contra hne
    rw [hbs] at h
    exact not_finished_append hr hne h
  exact ⟨lines, hl, by rw [hbs, hnil, List.append_nil]⟩

theorem cutLines_joinLines {lines : List (List UInt8)} (hl : ∀ l ∈ lines, newline ∉ l) :
    cutLines (joinLines lines) = (lines, []) :=
  cutLines_eq_iff.2 ⟨hl, List.not_mem_nil, (List.append_nil _).symm⟩

/-- What follows finished bytes is cut as if it stood alone. -/
theorem cutLines_joinLines_append {lines lines' : List (List UInt8)} {bs rest : List UInt8}
    (hl : ∀ l ∈ lines, newline ∉ l) (hcut : cutLines bs = (lines', rest)) :
    cutLines (joinLines lines ++ bs) = (lines ++ lines', rest) := by
  obtain ⟨hl', hr, hbs⟩ := cutLines_eq_iff.1 hcut
  have hall : ∀ l ∈ lines ++ lines', newline ∉ l := List.forall_mem_append.2 ⟨hl, hl'⟩
  have hjoin : joinLines lines ++ bs = joinLines (lines ++ lines') ++ rest := by
    simp [joinLines, hbs]
  exact cutLines_eq_iff.2 ⟨hall, hr, hjoin⟩

/-! ## numbers of lines -/

/-- An error that names no line is the same wherever it was found. -/
theorem text_mapError_afterLines (k : Nat) (bs : List UInt8) :
    (text bs).mapError (LedgerError.afterLines k) = text bs := by
  unfold text
  split <;> rfl

/-- The number of a line shows in its error only. -/
theorem readLine_add (n k : Nat) (bs : List UInt8) :
    readLine (n + k) bs = (readLine n bs).mapError (LedgerError.afterLines k) := by
  simp only [readLine, Outcome.mapError_bind, text_mapError_afterLines]
  congr 1
  funext s
  split
  · rfl
  · cases Entry.ofLine s <;> rfl

theorem readLines_cons (n : Nat) (bs : List UInt8) (lines : List (List UInt8)) :
    readLines n (bs :: lines) =
      readLine n bs >>= fun e => (e :: ·) <$> readLines (n + 1) lines := by
  simp [readLines]

theorem readLines_append (n : Nat) (lines lines' : List (List UInt8)) :
    readLines n (lines ++ lines') =
      readLines n lines >>= fun es => (es ++ ·) <$> readLines (n + lines.length) lines' := by
  simp [readLines, List.zipIdx_append]

/-- The numbers of lines show in an error only. -/
theorem readLines_add (n k : Nat) (lines : List (List UInt8)) :
    readLines (n + k) lines = (readLines n lines).mapError (LedgerError.afterLines k) := by
  induction lines generalizing n with
  | nil => rfl
  | cons bs lines ih =>
      have hsucc : n + k + 1 = n + 1 + k := by omega
      rw [readLines_cons, readLines_cons, hsucc, ih, readLine_add, Outcome.mapError_bind]
      congr 1
      funext e
      cases readLines (n + 1) lines <;> rfl

/-- As many entries are read as there are lines. -/
theorem length_of_readLines {n : Nat} {lines : List (List UInt8)} {es : List Entry}
    (h : readLines n lines = .ok es) : es.length = lines.length := by
  rw [(readLines_eq_ok_iff.1 h).1, List.length_map]

theorem readRest_add (n k : Nat) (rest : List UInt8) (failure : Option Failure) :
    readRest (n + k) rest failure =
      (readRest n rest failure).mapError (LedgerError.afterLines k) := by
  cases failure with
  | some failure => rfl
  | none =>
      simp only [readRest, Outcome.mapError_bind, text_mapError_afterLines]
      congr 1
      funext s
      split <;> rfl

/-! ## streams that go on -/

/-- Reads finished lines, the first of which has the number `line`, and what follows them. -/
def readParts (line : Nat) (lines : List (List UInt8)) (rest : List UInt8)
    (failure : Option Failure) : Except LedgerError (List Entry) := do
  let entries ← readLines line lines
  readRest (line + lines.length) rest failure
  pure entries

theorem readParts_add (n k : Nat) (lines : List (List UInt8)) (rest : List UInt8)
    (failure : Option Failure) :
    readParts (n + k) lines rest failure =
      (readParts n lines rest failure).mapError (LedgerError.afterLines k) := by
  have hnumber : n + k + lines.length = n + lines.length + k := by omega
  simp only [readParts, readLines_add, hnumber, readRest_add, Outcome.mapError_bind]
  rfl

theorem readParts_append (n : Nat) (lines lines' : List (List UInt8)) (rest : List UInt8)
    (failure : Option Failure) :
    readParts n (lines ++ lines') rest failure =
      readLines n lines >>= fun es =>
        (es ++ ·) <$> readParts (n + lines.length) lines' rest failure := by
  simp [readParts, readLines_append, Nat.add_assoc]

theorem read_eq_readParts {b : ByteArray} {lines : List (List UInt8)} {rest : List UInt8}
    (hcut : cutLines b.data.toList = (lines, rest)) (failure : Option Failure) :
    read ⟨b, failure⟩ = readParts 1 lines rest failure := by
  simp only [read, hcut, readParts, Nat.add_comm 1]

/-- Of finished bytes the lines are read, and nothing is left. -/
theorem read_eq_readLines {b : ByteArray} {lines : List (List UInt8)}
    (hcut : cutLines b.data.toList = (lines, [])) : read ⟨b, none⟩ = readLines 1 lines := by
  rw [read_eq_readParts hcut, readParts]
  cases readLines 1 lines <;> rfl

/-- A stream is read part by part: first its finished bytes, then what follows them. -/
theorem read_append {a : ByteArray} (ha : Finished a.data.toList) (b : ByteArray)
    (failure : Option Failure) :
    read ⟨a ++ b, failure⟩ =
      read ⟨a, none⟩ >>= fun es =>
        (es ++ ·) <$> (read ⟨b, failure⟩).mapError (LedgerError.afterLines es.length) := by
  obtain ⟨lines, hl, hlines⟩ := ha.exists_lines
  have hcut : cutLines a.data.toList = (lines, []) := by rw [hlines, cutLines_joinLines hl]
  cases hcut' : cutLines b.data.toList with
  | mk lines' rest =>
      have hboth : cutLines (a ++ b).data.toList = (lines ++ lines', rest) := by
        rw [ByteArray.toList_data_append, hlines, cutLines_joinLines_append hl hcut']
      rw [read_eq_readParts hboth, read_eq_readLines hcut, read_eq_readParts hcut',
        readParts_append]
      cases hread : readLines 1 lines with
      | error e => rfl
      | ok es =>
          rw [Outcome.ok_bind, Outcome.ok_bind, readParts_add, length_of_readLines hread]

/-- When finished bytes hold entries only, the entries behind them follow, and an error behind them
counts its line from the beginning of the stream.  An error in them is the same whatever follows. -/
theorem read_composes {a : ByteArray} (ha : Finished a.data.toList) (b : ByteArray)
    (failure : Option Failure) :
    (∀ es fs, read ⟨a, none⟩ = .ok es → read ⟨b, failure⟩ = .ok fs →
      read ⟨a ++ b, failure⟩ = .ok (es ++ fs)) ∧
    (∀ es e, read ⟨a, none⟩ = .ok es → read ⟨b, failure⟩ = .error e →
      read ⟨a ++ b, failure⟩ = .error (e.afterLines es.length)) ∧
    ∀ e, read ⟨a, none⟩ = .error e → read ⟨a ++ b, failure⟩ = .error e := by
  rw [read_append ha b failure]
  refine ⟨fun es fs hes hfs => ?_, fun es e hes he => ?_, fun e he => ?_⟩
  · rw [hes, hfs]
    rfl
  · rw [hes, he]
    rfl
  · rw [he]
    rfl

/-- A bad line is the second one of its part.  With one line before the part it is the third one,
and with any bytes behind the part it stays the second one. -/
theorem read_composes_at_bad_line :
    Finished "0\ta\n".toUTF8.data.toList ∧ Finished "1\tb\n2\n".toUTF8.data.toList ∧
      read ⟨"0\ta\n".toUTF8, none⟩ = .ok [⟨0, "a", by decide⟩] ∧
      read ⟨"1\tb\n2\n".toUTF8, none⟩ = .error (.malformedLine 2 "missing tab separator") ∧
      read ⟨"0\ta\n".toUTF8 ++ "1\tb\n2\n".toUTF8, none⟩ =
        .error (.malformedLine 3 "missing tab separator") ∧
      read ⟨"1\tb\n2\n".toUTF8 ++ "0\ta\n".toUTF8, none⟩ =
        .error (.malformedLine 2 "missing tab separator") := by
  have hgood : Finished "0\ta\n".toUTF8.data.toList := by decide +kernel
  have hbad : Finished "1\tb\n2\n".toUTF8.data.toList := by decide +kernel
  have hread : read ⟨"0\ta\n".toUTF8, none⟩ = .ok [⟨0, "a", by decide⟩] := by decide +kernel
  have herror : read ⟨"1\tb\n2\n".toUTF8, none⟩ =
      .error (.malformedLine 2 "missing tab separator") := by decide +kernel
  have hbehind := (read_composes hgood "1\tb\n2\n".toUTF8 none).2.1 _ _ hread herror
  have hbefore := (read_composes hbad "0\ta\n".toUTF8 none).2.2 _ herror
  exact ⟨hgood, hbad, hread, herror, hbehind, hbefore⟩

/-! ## streams that fail -/

/-- The bytes up to the last newline. -/
def finishedPart (b : ByteArray) : ByteArray :=
  (b.data.toList.rdropWhile (· ≠ newline)).toByteArray

/-- The bytes behind the last newline. -/
def begunPart (b : ByteArray) : ByteArray :=
  (b.data.toList.rtakeWhile (· ≠ newline)).toByteArray

theorem finishedPart_append_begunPart (b : ByteArray) : finishedPart b ++ begunPart b = b := by
  rw [ByteArray.ext_iff, ← Array.toList_inj]
  simp [finishedPart, begunPart, List.rdropWhile_append_rtakeWhile]

theorem finished_finishedPart (b : ByteArray) : Finished (finishedPart b).data.toList := by
  rw [finishedPart, List.toList_data_toByteArray]
  by_cases h : b.data.toList.rdropWhile (· ≠ newline) = []
  · exact .inl h
  · have hlast := List.rdropWhile_last_not (· ≠ newline) b.data.toList h
    rw [decide_not, Bool.not_eq_true, Bool.not_eq_false', decide_eq_true_iff] at hlast
    refine .inr ?_
    rw [List.getLast?_eq_getLast_of_ne_nil h, hlast]

theorem newline_not_mem_begunPart (b : ByteArray) : newline ∉ (begunPart b).data.toList := by
  rw [begunPart, List.toList_data_toByteArray]
  intro h
  have hne := List.mem_rtakeWhile_imp h
  simp at hne

/-- `c` is the longest beginning of `b` that is finished. -/
structure IsFinishedPart (c b : List UInt8) : Prop where
  isPrefix : c <+: b
  finished : Finished c
  longest : ∀ d, d <+: b → Finished d → d.length ≤ c.length

/-- The bytes up to the last newline are the longest beginning that is finished. -/
theorem isFinishedPart_finishedPart (b : ByteArray) :
    IsFinishedPart (finishedPart b).data.toList b.data.toList := by
  have hb : (finishedPart b).data.toList ++ (begunPart b).data.toList = b.data.toList := by
    rw [← ByteArray.toList_data_append, finishedPart_append_begunPart]
  refine ⟨⟨_, hb⟩, finished_finishedPart b, fun d hd hfin => ?_⟩
  -- A longer beginning would end behind the last newline, inside of the line that is begun there.
  by_contra hlt
  rw [← hb] at hd
  obtain ⟨rest, rfl⟩ := List.prefix_of_prefix_length_le (List.prefix_append _ _) hd (by omega)
  rw [List.prefix_append_right_inj] at hd
  have hr : newline ∉ rest := fun h => newline_not_mem_begunPart b (hd.subset h)
  have hne : rest ≠ [] := fun h => hlt (by simp [h])
  exact not_finished_append hr hne hfin

/-- A stream without a newline that fails has nothing to read. -/
theorem read_of_newline_not_mem {b : ByteArray} (h : newline ∉ b.data.toList) (failure : Failure) :
    read ⟨b, some failure⟩ = .error (.readFailed failure) := by
  have hcut : cutLines b.data.toList = ([], b.data.toList) :=
    cutLines_eq_iff.2 ⟨by simp, h, by simp [joinLines]⟩
  rw [read_eq_readParts hcut]
  rfl

/-- A stream that fails is never read.  What is reported is the error of the bytes up to its last
newline, or else the failure, whatever was begun behind them. -/
theorem read_failing_stream (b : ByteArray) (failure : Failure) :
    IsFinishedPart (finishedPart b).data.toList b.data.toList ∧
      (read ⟨b, some failure⟩ =
        match read ⟨finishedPart b, none⟩ with
        | .error e => .error e
        | .ok _ => .error (.readFailed failure)) ∧
      ∀ es, read ⟨b, some failure⟩ ≠ .ok es := by
  have hread : read ⟨b, some failure⟩ =
      match read ⟨finishedPart b, none⟩ with
      | .error e => .error e
      | .ok _ => .error (.readFailed failure) := by
    conv_lhs => rw [← finishedPart_append_begunPart b]
    rw [read_append (finished_finishedPart b),
      read_of_newline_not_mem (newline_not_mem_begunPart b)]
    cases read ⟨finishedPart b, none⟩ <;> rfl
  refine ⟨isFinishedPart_finishedPart b, hread, fun es hes => ?_⟩
  rw [hread] at hes
  split at hes <;> contradiction

/-- What was begun when the stream failed is not looked at, here the first byte of a character. -/
example : read ⟨"0\ta\n1".toUTF8.push 0xE2, some (.other "gone")⟩ =
    .error (.readFailed (.other "gone")) := by
  decide +kernel

end Ledger

end Almanac
