/-!
# Almanac.Program.Request

What a command line asks the program for, and what is seen of a run.

A command line is a list of words.  How they are read is left open: `Request.Format` is any way to
read words as a request with paths in it.
-/

namespace Almanac

/-- The commands, with the path that is given to them. -/
inductive Command (π : Type)
  | generate (output : Option π)
  | verify (input : Option π)
deriving DecidableEq, Repr

/-- A command line that asks for something to be done. -/
structure Request (π : Type) where
  verbosity : Nat := 0
  config : Option π := none
  command : Option (Command π) := none
deriving DecidableEq, Repr

/-- What is seen of a run. -/
structure Program.Outcome where
  exitCode : Nat := 0
  stdout : String := ""
  stderr : String := ""
deriving DecidableEq, Repr

/-- A way to read the words of a command line, without the name of the program. -/
class Request.Format (ω : Type) (π : outParam Type) where
  /-- The request, or what is seen of a run that does nothing but answer the command line: with the
  help that it asks for, or with what is wrong with it. -/
  read : List ω → Except Program.Outcome (Request π)
  /-- Without words nothing is given. -/
  read_nil : read [] = .ok {}

end Almanac
