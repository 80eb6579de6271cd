import Almanac.Ledger.Reading

/-!
# Almanac.Files

What a program does with files: it reads one as a whole, or replaces the bytes of one as a whole.
A program is written over any monad with these two steps.  `Almanac.FileStore` gives them on a
value; the command line gives them on the files of the machine.

Files are named by paths.  A text can be turned into a path and a path can be shown, but there may
be paths that no text is turned into.
-/

namespace Almanac

/-- What names a file. -/
class Path (π : Type) where
  /-- The path that a text stands for. -/
  ofText : String → π
  /-- A path as messages show it. -/
  display : π → String

instance : Path String where
  ofText := id
  display := id

/-- Why the bytes of a file were not replaced. -/
inductive ReplaceFailure
  /-- The file cannot be created or emptied; nothing has changed. -/
  | cannotCreate (cause : Failure)
  /-- The file was emptied, but not all bytes were written. -/
  | cannotWrite (cause : Failure)
deriving DecidableEq, Repr

/-- The steps of a monad that read and replace files. -/
class Files (π : outParam Type) (m : Type → Type) where
  /-- Opens the file at a path and reads all of it. -/
  fetch : π → m (Except Failure Source)
  /-- Creates or empties the file at a path and writes bytes into it. -/
  replace : π → ByteArray → m (Except ReplaceFailure Unit)

end Almanac
