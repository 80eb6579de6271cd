import Almanac.Ledger.Storage
import Almanac.Log
import Almanac.Program.Request
import Almanac.Settings.Loading

/-!
# Almanac.Program.Run

What the program does with a command line: it writes the ledger that its settings describe, or
checks one that was written before.

1. The settings are loaded and their schedule is checked before any other file is touched.
2. Without a command the ledger is generated.  A path that is given with the command goes before
   the one in the settings.
3. A check prints one line.  Everything else that the program tells is in its log and in the
   message of an error, both of which belong to the error output.

Nothing here depends on how command lines, settings and log filters are written: the program runs
with any `Request.Format`, `Settings.Format` and `Log.Format`, on any kind of words and paths.
-/

namespace Almanac.Program

/-- What a command did: the events that its log tells of, and the text that it prints or the
message of its error. -/
structure Activity where
  events : List Log.Event := []
  result : Except String String := .ok ""

/-! ## the log -/

/-- The targets of the program's own events. -/
def ownTargets : List String := ["daystep", "daystep_calendar", "daystep_fixture"]

/-- The filter for a number of `--verbose` switches, in words. -/
def defaultFilter (verbosity : Nat) : String :=
  let level := match verbosity with
    | 0 => "warn"
    | 1 => "info"
    | 2 => "debug"
    | _ => "trace"
  ",".intercalate (ownTargets.map fun target => s!"{target}={level}")

/-- The filter in the environment, or that of the command line if there is none that can be
read. -/
def filter [Log.Format] (environment : Option String) (verbosity : Nat) : Log.Format.Filter :=
  (environment.bind Log.Format.ofText?).getD (Log.Format.ofText (defaultFilter verbosity))

/-- The work of writing a ledger. -/
def generateSpan : Log.Span := ⟨"generate", "daystep::generate"⟩

/-- The work of checking a ledger. -/
def verifySpan : Log.Span := ⟨"verify", "daystep::verify_cmd"⟩

/-- A ledger is going to be written. -/
def generating (path : String) (expected : Nat) : Log.Event where
  level := .info
  target := "daystep::generate"
  message := "generating fixture"
  fields := [("path", path), ("expected_records", toString expected)]

/-- The file of a ledger was created or emptied. -/
def fileCreated (path : String) (s : Schedule) : Log.Event where
  level := .debug
  target := "daystep_fixture::writer"
  message := "output file created"
  fields := [("path", path), ("spec", s.shape.inline)]

/-- A ledger was written. -/
def ledgerWritten (path : String) (r : Receipt) : Log.Event where
  level := .info
  target := "daystep_fixture::writer"
  message := "fixture written"
  fields := [("path", path), ("records", toString r.count)]

/-- The command that writes a ledger is done. -/
def complete (count : Nat) (first last : Entry) : Log.Event where
  level := .info
  target := "daystep::generate"
  message := "fixture complete"
  fields := [("records", toString count), ("first", first.stamp), ("last", last.stamp)]

/-- The entries of a file were read. -/
def ledgerRead (path : String) (count : Nat) : Log.Event where
  level := .debug
  target := "daystep_fixture::reader"
  message := "fixture read"
  fields := [("path", path), ("records", toString count)]

/-- The entries of a file are those of the schedule. -/
def ledgerVerified (path : String) (count : Nat) : Log.Event where
  level := .info
  target := "daystep_fixture::validate"
  message := "fixture verified"
  fields := [("path", path), ("records", toString count)]

/-- The events after an attempt to write a ledger. -/
def savingEvents (path : String) (s : Schedule) : Except LedgerError Receipt → List Log.Event
  | .ok r =>
    let done := match r.first, r.last with
      | some first, some last => [complete r.count first last]
      | _, _ => []
    fileCreated path s :: ledgerWritten path r :: done
  | .error (.writeFailed _) => [fileCreated path s]
  | .error _ => []

/-! ## commands -/

section Commands

variable {π : Type} {m : Type → Type} [Path π] [Monad m] [Files π m]

/-- The path that is given with a command, or else the one in the settings. -/
def pathOr (settings : Settings) (given : Option π) : π := given.getD (Path.ofText settings.output)

/-- Writes the ledger that the settings describe. -/
def generate (settings : Settings) (output : Option π) : m Activity := do
  match settings.checkedSchedule with
  | .error e => pure { result := .error (Settings.scheduleTrail e) }
  | .ok s =>
    match s.length with
    | .error e => pure { result := .error e.trail }
    | .ok expected =>
      let path := pathOr settings output
      let shown := Path.display path
      let saved ← Ledger.save path s
      pure
        { events := generating shown expected :: savingEvents shown s saved
          result := (saved.map fun _ => "").mapError fun e =>
            s!"fixture generation failed: {e.trail}" }

/-- The line of a check that passed, or the message of one that did not. -/
def checkResult (shown : String) (r : Except LedgerError Report) : Except String String :=
  (r.map fun r => s!"{shown}: {r.count} records ok\n").mapError fun e =>
    s!"fixture verification failed: {shown}: {e.trail}"

/-- Compares a ledger with the settings. -/
def verify (settings : Settings) (input : Option π) : m Activity := do
  match settings.checkedSchedule with
  | .error e => pure { result := .error (Settings.scheduleTrail e) }
  | .ok s =>
    let path := pathOr settings input
    let shown := Path.display path
    match ← Ledger.load path with
    | .error e => pure { result := checkResult shown (.error e) }
    | .ok entries =>
      let audited := Ledger.audit s entries
      let verified := match audited with
        | .ok r => [ledgerVerified shown r.count]
        | .error _ => []
      pure
        { events := ledgerRead shown entries.length :: verified
          result := checkResult shown audited }

/-- Carries out a command; without one a ledger is written. -/
def perform (settings : Settings) : Option (Command π) → m Activity
  | none => generate settings none
  | some (.generate output) => generate settings output
  | some (.verify input) => verify settings input

end Commands

/-- The span that the events of a command belong to. -/
def spanOf {π : Type} : Option (Command π) → Log.Span
  | some (.verify _) => verifySpan
  | _ => generateSpan

/-! ## runs -/

/-- What is seen of an activity through a filter. -/
def Activity.outcome [Log.Format] (a : Activity) (f : Log.Format.Filter) (span : Log.Span) :
    Outcome :=
  let lines (more : List String) : String :=
    String.join ((Log.lines f span a.events ++ more).map (· ++ "\n"))
  match a.result with
  | .ok text => { stdout := text, stderr := lines [] }
  | .error message => { exitCode := 1, stderr := lines [s!"Error: {message}"] }

/-- Runs the program with the words of its command line and the log filter of its environment, if
there is one that is text. -/
def run {ω π : Type} {m : Type → Type} [Path π] [Monad m] [Files π m] [Request.Format ω π]
    [Settings.Format] [Log.Format] (words : List ω) (environment : Option String) : m Outcome := do
  match Request.Format.read words with
  | .error answer => pure answer
  | .ok request =>
    let activity ← match ← Settings.load request.config with
      | .error fault => pure { result := .error fault.trail }
      | .ok settings => perform settings request.command
    pure (activity.outcome (filter environment request.verbosity) (spanOf request.command))

end Almanac.Program
