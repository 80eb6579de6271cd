import Almanac.Program

/-!
# Almanac.Main

The program as it is run: on the files of the machine, with the log filter in the environment
variable `RUST_LOG`.
-/

namespace Almanac

/-- The failure that the machine reports. -/
def Failure.ofMachine : IO.Error → Failure
  | .noFileOrDirectory .. => .notFound
  | .inappropriateType _ 21 _ => .isADirectory
  | .inappropriateType .. => .notADirectory
  | .invalidArgument _ 36 _ => .nameTooLong
  | e => .other (toString e)

/-- Runs an action and hands out its failure. -/
def attempt (action : IO α) : IO (Except Failure α) := do
  pure ((← action.toBaseIO).mapError Failure.ofMachine)

/-- Opens a file of the machine. -/
def openFile (path : String) (mode : IO.FS.Mode) : IO (Except Failure IO.FS.Handle) :=
  if '\x00' ∈ path.toList then pure (.error .nulInPath)
  else attempt (IO.FS.Handle.mk path mode)

instance : Files String IO where
  fetch path := do
    match ← openFile path .read with
    | .error cause => pure (.error cause)
    | .ok handle =>
      match ← attempt handle.readBinToEnd with
      | .error cause => pure (.ok ⟨.empty, some cause⟩)
      | .ok bytes => pure (.ok ⟨bytes, none⟩)
  replace path bytes := do
    match ← openFile path .write with
    | .error cause => pure (.error (.cannotCreate cause))
    | .ok handle =>
      match ← attempt (do handle.write bytes; handle.flush) with
      | .error cause => pure (.error (.cannotWrite cause))
      | .ok () => pure (.ok ())

end Almanac

/-- Runs the program on a command line. -/
def main (words : List String) : IO UInt32 := do
  let outcome ← Almanac.Program.run words (← IO.getEnv "RUST_LOG")
  (← IO.getStdout).putStr outcome.stdout
  (← IO.getStderr).putStr outcome.stderr
  pure outcome.exitCode.toUInt32
