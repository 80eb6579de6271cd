import Almanac.Frontend.CommandLine.Invocation
import Almanac.Frontend.Log.Notation
import Almanac.Frontend.Toml.Settings
import Almanac.Program.Run

/-!
# Almanac.Program

The program with the command line, the settings files and the log that it is run with.  None of
them matters to what the program does with files, so all of them are left out of its theory.
-/

namespace Almanac

instance : Request.Format String String where
  read words := (CommandLine.Invocation.ofWords words).mapError CommandLine.Reply.outcome
  read_nil := rfl

instance : Settings.Format where
  parse := Settings.ofToml
  parse_empty := rfl
  parse_unknown_table := Settings.ofToml_unknown_table
  parse_unknown_field := Settings.ofToml_unknown_field

instance : Log.Format where
  Filter := Log.Filter
  ofText? := Log.Filter.ofText?
  ofText := Log.Filter.ofText
  line? := Log.Filter.line?

end Almanac
