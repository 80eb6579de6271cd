import Almanac.Frontend.Toml.Statement

/-!
# Almanac.Frontend.Toml.Document

A TOML document is a table, put together from the sections of its text.  A section is a header and
the pairs below it; the pairs before the first header belong to the document's own table.

1. Tables on the way to a header are made when they are missing, and a table that was made so may
   get a header of its own, once.  It then takes its place in the order behind what is there.
2. A header in double brackets adds a table to an array of tables.  A path through such an array
   goes through the last of its tables.
3. No key may be given twice, and nothing is added to a table in braces.
-/

namespace Almanac.Toml

/-! ## sections -/

/-- What a section is about. -/
inductive Header
  | document
  | table (path : List String) (key : String)
  | item (path : List String) (key : String)

/-- A header and the pairs below it: the path and the last part of each key, and its value. -/
structure Section where
  header : Header
  pairs : List (List String × String × Value)

/-- Sections of statements; `current` is the section that is being collected, with its pairs
reversed. -/
def sectionsFrom (current : Section) : List Statement → List Section
  | [] => [{ current with pairs := current.pairs.reverse }]
  | .header path key :: rest =>
    { current with pairs := current.pairs.reverse } :: sectionsFrom ⟨.table path key, []⟩ rest
  | .itemHeader path key :: rest =>
    { current with pairs := current.pairs.reverse } :: sectionsFrom ⟨.item path key, []⟩ rest
  | .pair path key value :: rest =>
    sectionsFrom { current with pairs := (path, key, value) :: current.pairs } rest

/-- The sections of statements, beginning with the document's own. -/
def sections (statements : List Statement) : List Section := sectionsFrom ⟨.document, []⟩ statements

/-! ## tables -/

/-- Adds the pairs of a section to a table. -/
def assignAll (pairs : List (List String × String × Value)) (entries : Entries) : Option Entries :=
  pairs.foldlM (fun entries (path, key, value) => assign key value path entries) entries

/-- Changes the table at the end of a path of headers. -/
def within (change : Entries → Option Entries) : List String → Entries → Option Entries
  | [], entries => change entries
  | part :: path, entries =>
    match lookup? part entries with
    | none => do pure (entries ++ [(part, .table .passed (← within change path []))])
    | some (.table origin inner) =>
      if origin = .braces then none
      else do pure (replace part (.table origin (← within change path inner)) entries)
    | some (.tables items) =>
      match items.getLast? with
      | none => none
      | some last => do
        pure (replace part (.tables (items.dropLast ++ [← within change path last])) entries)
    | some _ => none

/-- Adds a table under a key that is new, or that names a table which was only passed so far. -/
def addTable (key : String) (pairs : List (List String × String × Value)) (entries : Entries) :
    Option Entries :=
  match lookup? key entries with
  | none => do pure (entries ++ [(key, .table .header (← assignAll pairs []))])
  | some (.table .passed inner) => do
    let others := entries.filter (·.1 ≠ key)
    pure (others ++ [(key, .table .header (← assignAll pairs inner))])
  | some _ => none

/-- Adds a table to an array of tables. -/
def addItem (key : String) (pairs : List (List String × String × Value)) (entries : Entries) :
    Option Entries := do
  let item ← assignAll pairs []
  match lookup? key entries with
  | none => pure (entries ++ [(key, .tables [item])])
  | some (.tables items) => pure (replace key (.tables (items ++ [item])) entries)
  | some _ => none

/-- Adds a section to the document's table. -/
def addSection (entries : Entries) (s : Section) : Option Entries :=
  match s.header with
  | .document => assignAll s.pairs entries
  | .table path key => within (addTable key s.pairs) path entries
  | .item path key => within (addItem key s.pairs) path entries

/-- The table of a document; `none` if the text is not TOML. -/
def document? (text : String) : Option Entries := do
  (sections (← statements? text)).foldlM addSection []

/-! ### tables with words for names -/

section Words

variable {c : Char} {cs : List Char}

/-- A text with the header of an empty table. -/
theorem document?_header (hword : (c :: cs).all isKeyChar) :
    document? (String.ofList ('[' :: c :: (cs ++ [']', '\n']))) =
      some [(String.ofList (c :: cs), .table .header [])] := by
  rw [document?, statements?_bracket,
    statementsOnto_cons (by decide) (by decide) (scanStatement_header hword []),
    List.length_cons, statementsOnto_nil]
  rfl

/-- A text with a table of one pair, a word and the number zero. -/
theorem document?_zero {d : Char} {ds : List Char} (hname : (c :: cs).all isKeyChar)
    (hword : (d :: ds).all isKeyChar) :
    document? (String.ofList ('[' :: c :: (cs ++ ']' :: '\n' :: d :: (ds ++ " = 0\n".toList)))) =
      some [(String.ofList (c :: cs),
        .table .header [(String.ofList (d :: ds), .integer 0)])] := by
  have hd : isKeyChar d := List.all_eq_true.1 hword d List.mem_cons_self
  have hstart : ¬ (d = '\n' ∨ d = '\r' ∨ d = '#') := by
    rintro (rfl | rfl | rfl) <;> exact absurd hd (by decide)
  -- The text has characters enough for a round on each statement and one behind them.
  rw [document?, statements?_bracket,
    statementsOnto_cons (by decide) (by decide) (scanStatement_header hname _), List.length_cons,
    statementsOnto_cons (isBlank_of_isKeyChar hd) hstart (scanStatement_zero hword),
    List.length_append, List.length_cons, ← Nat.add_assoc, statementsOnto_nil]
  rfl

end Words

end Almanac.Toml
