import Almanac.Frontend.Toml.Document
import Almanac.Settings

/-!
# Almanac.Frontend.Toml.Settings

Settings in a TOML document with at most one table `fixture`.  The table may also be an array of
the four values, of which the last ones may be left out.  Anything else is refused, and of several
faults the first in the order of the document is told.
-/

namespace Almanac.Settings

/-! ## fields -/

/-- A value that is not of the kind that a field needs. -/
def wrongKind (v : Toml.Value) (expected : String) : String :=
  s!"invalid type: {v.description}, expected {expected}"

/-- A key that names no field. -/
def unknownField (key expected : String) : String :=
  s!"unknown field `{key}`, expected {expected}"

/-- Sets the path of the file. -/
def withOutput (s : Settings) : Toml.Value → Except String Settings
  | .string path => .ok { s with output := path }
  | v => .error (wrongKind v "path string")

/-- A signed integer; the integers of a document fit in 64 bits already. -/
def int64 : Toml.Value → Except String { n : Int // FitsInt64 n }
  | .integer n =>
    if h : FitsInt64 n then .ok ⟨n, h⟩
    else .error s!"invalid value: integer `{n}`, expected i64"
  | v => .error (wrongKind v "i64")

/-- Sets the first instant. -/
def withStart (s : Settings) (v : Toml.Value) : Except String Settings :=
  (int64 v).map fun ⟨n, h⟩ => { s with startNanos := n, start_fits := h }

/-- Sets the step. -/
def withStep (s : Settings) (v : Toml.Value) : Except String Settings :=
  (int64 v).map fun ⟨n, h⟩ => { s with stepSecs := n, step_fits := h }

/-- Sets the number of years. -/
def withSpan (s : Settings) : Toml.Value → Except String Settings
  | .integer n =>
    if h : 0 ≤ n ∧ FitsNat32 n.toNat then .ok { s with spanYears := n.toNat, span_fits := h.2 }
    else .error s!"invalid value: integer `{n}`, expected u32"
  | v => .error (wrongKind v "u32")

/-! ## the document -/

/-- The names of the fields, in the order in which an array gives them. -/
def fieldChoice : String := "one of " ++ ", ".intercalate (fieldNames.map fun name => s!"`{name}`")

/-- Sets the field with a name. -/
def withField (s : Settings) (key : String) (v : Toml.Value) : Except String Settings :=
  match key with
  | "output" => s.withOutput v
  | "start_unix_nanos" => s.withStart v
  | "step_secs" => s.withStep v
  | "span_years" => s.withSpan v
  | _ => .error (unknownField key fieldChoice)

/-- Sets the fields of an array, in their order; further values are not looked at. -/
def ofArray (vs : List Toml.Value) : Except String Settings :=
  let setters := [withOutput, withStart, withStep, withSpan]
  (setters.zip vs).foldlM (fun s (set, v) => set s v) standard

/-- Sets the fields of a table. -/
def ofTable (entries : Toml.Entries) : Except String Settings :=
  entries.foldlM (fun s (key, v) => s.withField key v) standard

/-- The settings in the table `fixture`.  A date or time is like a table with one reserved key. -/
def ofFixture : Toml.Value → Except String Settings
  | .table _ entries => ofTable entries
  | .dateTime => .error (unknownField "$__toml_private_datetime" fieldChoice)
  | .array items => ofArray items
  | .tables items => ofArray (items.map (.table .header))
  | v => .error (wrongKind v "struct FixtureToml")

/-- The settings in a document's table. -/
def ofDocument (entries : Toml.Entries) : Except String Settings :=
  entries.foldlM (fun _ (key, v) =>
    if key = tableName then ofFixture v else .error (unknownField key s!"`{tableName}`")) standard

/-- The settings in a TOML text. -/
def ofToml (text : String) : Except Fault Settings :=
  match Toml.document? text with
  | none => .error .notToml
  | some entries => (ofDocument entries).mapError .wrongShape

/-! ## what is refused -/

theorem exists_word_of_isBareKey {key : String} (h : isBareKey key) :
    ∃ c cs, key = String.ofList (c :: cs) ∧ (c :: cs).all Toml.isKeyChar := by
  obtain ⟨hne, hall⟩ := Bool.and_eq_true_iff.1 h
  cases hlist : key.toList with
  | nil => simp [String.toList_eq_nil_iff.1 hlist] at hne
  | cons c cs => exact ⟨c, cs, by rw [← hlist, String.ofList_toList], hlist ▸ hall⟩

theorem withField_unknown {key : String} (h : key ∉ fieldNames) (s : Settings) (v : Toml.Value) :
    s.withField key v = .error (unknownField key fieldChoice) := by
  unfold withField
  split <;> first | rfl | exact absurd (by decide) h

/-- A table with another name is refused. -/
theorem ofToml_unknown_table {key : String} (h : isBareKey key) (hkey : key ≠ tableName) :
    ∃ fault, ofToml ("[" ++ key ++ "]\n") = .error fault := by
  obtain ⟨c, cs, rfl, hword⟩ := exists_word_of_isBareKey h
  have htext : "[" ++ String.ofList (c :: cs) ++ "]\n" =
      String.ofList ('[' :: c :: (cs ++ [']', '\n'])) := by
    rw [← String.toList_inj]
    simp
  have hdocument : ofDocument [(String.ofList (c :: cs), .table .header [])] =
      .error (unknownField (String.ofList (c :: cs)) s!"`{tableName}`") := by
    simp only [ofDocument, List.foldlM_cons, if_neg hkey]
    rfl
  rw [htext, ofToml, Toml.document?_header hword]
  exact ⟨_, congrArg (Except.mapError Fault.wrongShape) hdocument⟩

/-- Another field is refused. -/
theorem ofToml_unknown_field {key : String} (h : isBareKey key) (hkey : key ∉ fieldNames) :
    ∃ fault, ofToml ("[" ++ tableName ++ "]\n" ++ key ++ " = 0\n") = .error fault := by
  obtain ⟨d, ds, rfl, hword⟩ := exists_word_of_isBareKey h
  have hbare : isBareKey tableName := by decide
  obtain ⟨c, cs, hname, hnameWord⟩ := exists_word_of_isBareKey hbare
  have htext : "[" ++ tableName ++ "]\n" ++ String.ofList (d :: ds) ++ " = 0\n" =
      String.ofList ('[' :: c :: (cs ++ ']' :: '\n' :: d :: (ds ++ " = 0\n".toList))) := by
    rw [← String.toList_inj, hname]
    simp
  have hdocument : ofDocument [(String.ofList (c :: cs),
      .table .header [(String.ofList (d :: ds), .integer 0)])] =
        .error (unknownField (String.ofList (d :: ds)) fieldChoice) := by
    simp only [ofDocument, ofFixture, ofTable, List.foldlM_cons, if_pos hname.symm,
      withField_unknown hkey]
    rfl
  rw [htext, ofToml, Toml.document?_zero hnameWord hword]
  exact ⟨_, congrArg (Except.mapError Fault.wrongShape) hdocument⟩

end Almanac.Settings
