import Almanac.Frontend.Toml.Number

/-!
# Almanac.Frontend.Toml.Statement

A TOML text as a list of statements, one a line: a header in single brackets, a header in double
brackets, or a key with its value.  Tables in braces are put together here; the tables that headers
describe are not.

A key with dots builds tables on its way.  `assign` does so for the keys in braces and below
headers alike.
-/

namespace Almanac.Toml

/-! ## keys and their values -/

/-- The value of a key. -/
def lookup? (key : String) (entries : Entries) : Option Value := List.lookup key entries

/-- The entries with another value for a key that they have. -/
def replace (key : String) (value : Value) (entries : Entries) : Entries :=
  entries.map fun (k, v) => if k = key then (k, value) else (k, v)

/-- Adds a value below a key with dots.  The tables on the way must not have been written in one
piece, the last of them must have been built by keys with dots, and the key must be new in it. -/
def assign (key : String) (value : Value) : List String → Entries → Option Entries
  | [], entries => if (lookup? key entries).isSome then none else some (entries ++ [(key, value)])
  | part :: path, entries =>
    let build (origin : Origin) (inner : Entries) : Option Entries :=
      if path.isEmpty ∧ origin ≠ .dotted then none else assign key value path inner
    match lookup? part entries with
    | none => do pure (entries ++ [(part, .table .dotted (← build .dotted []))])
    | some (.table origin inner) =>
      if origin = .braces ∨ origin = .header then none
      else do pure (replace part (.table origin (← build origin inner)) entries)
    | some (.tables items) =>
      match items.getLast? with
      | none => none
      | some last => do
        pure (replace part (.tables (items.dropLast ++ [← build .header last])) entries)
    | some _ => none

/-! ## values -/

/-- The values of an array and its closing bracket, behind the reversed values `done`.  Each round
reads at least one character. -/
def scanItems (item : Scan Value) (done : List Value) : Nat → Scan (List Value)
  | 0, _ => none
  | rounds + 1, cs =>
    match skipLines false cs with
    | ']' :: rest => some (done.reverse, rest)
    | cs => do
      let (value, rest) ← item cs
      match skipLines false rest with
      | ',' :: rest => scanItems item (value :: done) rounds rest
      | ']' :: rest => some ((value :: done).reverse, rest)
      | _ => none

/-- The keys and values between braces and the closing brace, added to `entries`. -/
def scanPairs (item : Scan Value) (entries : Entries) : Nat → Scan Entries
  | 0, _ => none
  | rounds + 1, cs => do
    let ((path, key), rest) ← scanKey cs
    let (value, rest) ← item (skipBlanks (← after? '=' rest))
    let entries ← assign key value path entries
    match skipBlanks rest with
    | ',' :: rest => scanPairs item entries rounds rest
    | '}' :: rest => some (entries, rest)
    | _ => none

/-- A value that holds no others. -/
def scanScalar : Scan Value
  | [] => none
  | 't' :: 'r' :: 'u' :: 'e' :: rest => some (.boolean true, rest)
  | 'f' :: 'a' :: 'l' :: 's' :: 'e' :: rest => some (.boolean false, rest)
  | c :: rest =>
    if c = '"' ∨ c = '\'' then (scanString (c :: rest)).map fun (s, rest) => (.string s, rest)
    else if c.isDigit ∨ c = '+' ∨ c = '-' then scanNumber (c :: rest)
    else (scanSpecial (c :: rest)).map fun (x, rest) => (.float x, rest)

/-- A value in which arrays and tables are nested at most `depth` deep. -/
def scanValue : Nat → Scan Value
  | 0, cs => scanScalar cs
  | depth + 1, cs =>
    match cs with
    | '[' :: rest => do
      let (items, rest) ← scanItems (scanValue depth) [] (rest.length + 1) rest
      pure (.array items, rest)
    | '{' :: rest =>
      match skipBlanks rest with
      | '}' :: rest => some (.table .braces [], rest)
      | rest => do
        let (entries, rest) ← scanPairs (scanValue depth) [] (rest.length + 1) rest
        pure (.table .braces entries, rest)
    | cs => scanScalar cs

/-! ## statements -/

/-- A line of a document that says something. -/
inductive Statement
  | header (path : List String) (key : String)
  | itemHeader (path : List String) (key : String)
  | pair (path : List String) (key : String) (value : Value)

/-- One statement and the end of its line. -/
def scanStatement (cs : List Char) : Option (Statement × List Char) :=
  match cs with
  | '[' :: '[' :: rest => do
    let ((path, key), rest) ← scanKey rest
    let rest ← afterLine? (← after? ']' (← after? ']' rest))
    pure (.itemHeader path key, rest)
  | '[' :: rest => do
    let ((path, key), rest) ← scanKey rest
    let rest ← afterLine? (← after? ']' rest)
    pure (.header path key, rest)
  | cs => do
    let ((path, key), rest) ← scanKey cs
    let (value, rest) ← scanValue maxNesting (skipBlanks (← after? '=' rest))
    pure (.pair path key value, ← afterLine? rest)

/-- All statements, behind the reversed ones in `done`.  Each round reads at least one
character. -/
def statementsOnto (done : List Statement) : Nat → List Char → Option (List Statement)
  | 0, _ => none
  | rounds + 1, cs =>
    match skipBlanks cs with
    | [] => some done.reverse
    | c :: rest =>
      if c = '\n' ∨ c = '\r' ∨ c = '#' then do
        statementsOnto done rounds (← afterLine? (c :: rest))
      else do
        let (statement, rest) ← scanStatement (c :: rest)
        statementsOnto (statement :: done) rounds rest

/-- The statements of a text, which a byte order mark may open. -/
def statements? (text : String) : Option (List Statement) :=
  let cs := match text.toList with
    | '\ufeff' :: cs => cs
    | cs => cs
  statementsOnto [] (cs.length + 1) cs

/-! ### statements about words -/

section Words

variable {c : Char} {cs rest : List Char}

/-- The header of a table with a word for its name. -/
theorem scanStatement_header (hword : (c :: cs).all isKeyChar) (rest : List Char) :
    scanStatement ('[' :: c :: (cs ++ ']' :: '\n' :: rest)) =
      some (.header [] (String.ofList (c :: cs)), rest) := by
  have hc : isKeyChar c := List.all_eq_true.1 hword c List.mem_cons_self
  have hkey := scanKey_word (']' :: '\n' :: rest) hword rfl (by simp [skipBlanks, isBlank])
  rw [scanStatement, hkey]
  · rfl
  · intro _
    exact cons_ne_of_isKeyChar hc (by decide) _ _

/-- A pair of a word and the number zero, at the end of a text. -/
theorem scanStatement_zero (hword : (c :: cs).all isKeyChar) :
    scanStatement (c :: (cs ++ " = 0\n".toList)) =
      some (.pair [] (String.ofList (c :: cs)) (.integer 0), []) := by
  have hc : isKeyChar c := List.all_eq_true.1 hword c List.mem_cons_self
  have hkey := scanKey_word " = 0\n".toList hword rfl (by decide)
  rw [scanStatement, hkey]
  · rfl
  · intro _
    exact cons_ne_of_isKeyChar hc (by decide) _ _
  · intro _
    exact cons_ne_of_isKeyChar hc (by decide) _ _

theorem statementsOnto_cons {done : List Statement} {after : List Char}
    {rounds : Nat} {statement : Statement} (hblank : isBlank c = false)
    (hc : ¬ (c = '\n' ∨ c = '\r' ∨ c = '#'))
    (h : scanStatement (c :: rest) = some (statement, after)) :
    statementsOnto done (rounds + 1) (c :: rest) =
      statementsOnto (statement :: done) rounds after := by
  rw [statementsOnto, skipBlanks_cons hblank]
  simp only [if_neg hc, h]
  rfl

theorem statementsOnto_nil (done : List Statement) (rounds : Nat) :
    statementsOnto done (rounds + 1) [] = some done.reverse := by
  rw [statementsOnto]
  rfl

theorem statements?_bracket (cs : List Char) : statements? (String.ofList ('[' :: cs)) =
    statementsOnto [] (cs.length + 1 + 1) ('[' :: cs) := by
  rw [statements?, String.toList_ofList]
  rfl

end Words

end Almanac.Toml
