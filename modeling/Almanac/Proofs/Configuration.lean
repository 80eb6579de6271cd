import Almanac.Proofs.Session

/-!
# Almanac.Proofs.Configuration

What a run takes from its words and its settings file, in whatever way these are read.

1. Without words, the ledger of the standard settings is written (`run_nil`).
2. An empty file is as good as none (`run_settings_load_of_empty`).
3. A file with an unknown table or field stops a run before it touches any other file
   (`step_of_unknown_table` and `step_of_unknown_field`).
-/

namespace Almanac.Program

/-- Without words, the ledger of the standard settings is written to the path in them. -/
theorem run_nil {ω π : Type} {m : Type → Type} [Path π] [Monad m] [LawfulMonad m] [Files π m]
    [Request.Format ω π] [Settings.Format] [Log.Format] (environment : Option String) :
    (run ([] : List ω) environment : m Outcome) =
      (·.outcome (filter environment 0) generateSpan) <$>
        generate Settings.standard (none : Option π) := by
  rw [map_eq_pure_bind]
  simp only [run, Request.Format.read_nil, Settings.load, pure_bind]
  rfl

variable {ω π σ κ : Type} [Path π] [Files π (StateM σ)] [Settings.Format] (view : FileView σ κ)
variable {s : σ} {path : π} {place : κ}

/-- The settings of a run are those in the text of the file. -/
theorem run_settings_load_of_text {text : String} (hplace : view.resolve s path = .ok place)
    (hbytes : view.bytes? s place = some text.toUTF8) :
    (Settings.load (some path) : StateM σ _).run s = (Settings.parse text, s) := by
  have htext : Settings.textOf ⟨text.toUTF8, none⟩ = .ok text := by
    rw [Settings.textOf, Ledger.fromUTF8?_eq_some_iff.2 rfl]
  simp only [Settings.load, run_bind_of_eq (run_fetch_of_file view hplace hbytes), Outcome.ok_bind,
    htext]
  rfl

theorem run_settings_load_of_empty (hplace : view.resolve s path = .ok place)
    (hbytes : view.bytes? s place = some .empty) :
    (Settings.load (some path) : StateM σ _).run s = (.ok Settings.standard, s) := by
  have hempty : view.bytes? s place = some "".toUTF8 := hbytes
  rw [run_settings_load_of_text view hplace hempty, Settings.Format.parse_empty]

variable [Request.Format ω π] [Log.Format] {call : Call ω} {request : Request π} {key : String}

/-- A run whose settings file is refused fails and leaves everything as it was. -/
theorem step_of_unreadable {text : String} {fault : Settings.Fault}
    (hwords : Request.Format.read call.words = .ok request) (hconfig : request.config = some path)
    (hplace : view.resolve s path = .ok place)
    (hbytes : view.bytes? s place = some text.toUTF8) (h : Settings.parse text = .error fault) :
    (call.step s).outcome.exitCode = 1 ∧ (call.step s).after = s := by
  have hload : ((Settings.load request.config : StateM σ _).run s).1 = .error fault := by
    rw [hconfig, run_settings_load_of_text view hplace hbytes, h]
  exact step_of_fault view hwords hload

theorem step_of_unknown_table (hwords : Request.Format.read call.words = .ok request)
    (hconfig : request.config = some path) (hplace : view.resolve s path = .ok place)
    (hkey : Settings.isBareKey key) (hne : key ≠ Settings.tableName)
    (hbytes : view.bytes? s place = some ("[" ++ key ++ "]\n").toUTF8) :
    (call.step s).outcome.exitCode = 1 ∧ (call.step s).after = s := by
  obtain ⟨fault, h⟩ := Settings.Format.parse_unknown_table hkey hne
  exact step_of_unreadable view hwords hconfig hplace hbytes h

theorem step_of_unknown_field (hwords : Request.Format.read call.words = .ok request)
    (hconfig : request.config = some path) (hplace : view.resolve s path = .ok place)
    (hkey : Settings.isBareKey key) (hnot : key ∉ Settings.fieldNames)
    (hbytes : view.bytes? s place =
      some ("[" ++ Settings.tableName ++ "]\n" ++ key ++ " = 0\n").toUTF8) :
    (call.step s).outcome.exitCode = 1 ∧ (call.step s).after = s := by
  obtain ⟨fault, h⟩ := Settings.Format.parse_unknown_field hkey hnot
  exact step_of_unreadable view hwords hconfig hplace hbytes h

end Almanac.Program
