import Almanac.Files
import Almanac.Ledger.Audit
import Almanac.Ledger.Writing

/-!
# Almanac.Ledger.Storage

Ledgers in files.  A schedule is checked before its file is touched, so one without entries leaves
the file as it was.
-/

namespace Almanac.Ledger

variable {π : Type} {m : Type → Type} [Path π] [Monad m] [Files π m]

/-- Writes the entries of a schedule into a file, which is created or emptied. -/
def save (path : π) (s : Schedule) : m (Except LedgerError Receipt) := do
  match s.check with
  | .error e => pure (.error e)
  | .ok () =>
    let (result, sink) := write s {}
    match ← Files.replace path sink.accepted with
    | .ok () => pure result
    | .error (.cannotCreate cause) => pure (.error (.cannotCreate (Path.display path) cause))
    | .error (.cannotWrite cause) => pure (.error (.writeFailed cause))

/-- Reads the entries in a file. -/
def load (path : π) : m (Except LedgerError (List Entry)) := do
  match ← Files.fetch path with
  | .error cause => pure (.error (.cannotOpen (Path.display path) cause))
  | .ok source => pure (read source)

/-- Reads the entries in a file and compares them with a schedule. -/
def verify (path : π) (s : Schedule) : m (Except LedgerError Report) := do
  pure ((← load path) >>= audit s)

end Almanac.Ledger
