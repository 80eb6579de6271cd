import Almanac.Text.Quoted
import Almanac.Text.Shape

/-!
# Almanac.Failure

Failures of files and streams, with the wording of the operating system.
-/

namespace Almanac

/-- Why a file or stream did not do what was asked of it. -/
inductive Failure
  /-- A name on the path does not exist. -/
  | notFound
  /-- The path goes on below something that is not a directory. -/
  | notADirectory
  /-- The path leads to a directory where a file is needed. -/
  | isADirectory
  /-- The path or a name on it is too long. -/
  | nameTooLong
  /-- The path holds a NUL character. -/
  | nulInPath
  /-- The bytes are not UTF-8. -/
  | notText
  /-- Any other failure, in its own words. -/
  | other (text : String)
deriving DecidableEq, Repr

namespace Failure

/-- The wording of a failure. -/
def message : Failure → String
  | .notFound => "No such file or directory (os error 2)"
  | .notADirectory => "Not a directory (os error 20)"
  | .isADirectory => "Is a directory (os error 21)"
  | .nameTooLong => "File name too long (os error 36)"
  | .nulInPath => "file name contained an unexpected NUL byte"
  | .notText => "stream did not contain valid UTF-8"
  | .other text => text

/-- The structured form of a failure that has a number. -/
private def numbered (code : Nat) (kind message : String) : Shape :=
  .fields "Os"
    [("code", .nat code), ("kind", .word kind), ("message", .word (Text.quoted message))]

/-- The structured form of a failure without a number. -/
private def named (kind message : String) : Shape :=
  .fields "Error" [("kind", .word kind), ("message", .word (Text.quoted message))]

/-- The structured form of a failure. -/
def shape : Failure → Shape
  | .notFound => numbered 2 "NotFound" "No such file or directory"
  | .notADirectory => numbered 20 "NotADirectory" "Not a directory"
  | .isADirectory => numbered 21 "IsADirectory" "Is a directory"
  | .nameTooLong => numbered 36 "InvalidFilename" "File name too long"
  | .nulInPath => named "InvalidInput" "file name contained an unexpected NUL byte"
  | .notText => named "InvalidData" "stream did not contain valid UTF-8"
  | .other text =>
    .fields "Custom" [("kind", .word "Other"), ("error", .word (Text.quoted text))]

end Failure

end Almanac
