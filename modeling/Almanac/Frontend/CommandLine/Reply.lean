import Almanac.Frontend.CommandLine.Switch
import Almanac.Frontend.Text.ControlSequence
import Almanac.Program.Request

/-!
# Almanac.Frontend.CommandLine.Reply

What a command line answers by itself, without anything being done: a help text, the version, or
what is wrong with it.  Help and version are a success and belong to the standard output; a fault
is told on the error output with exit code 2.  What it cites of the command line is cited without
control sequences, which could otherwise change how a terminal shows the rest.
-/

namespace Almanac.CommandLine

/-- What is wrong with a command line. -/
inductive Fault
  /-- A switch or word that the scope does not know, and the switches given so far. -/
  | unexpected (scope : Scope) (word : String) (given : List Switch)
  /-- The name of a command after `--`, where no command is looked for. -/
  | commandAfterDashes (scope : Scope) (word : String)
  /-- A word that names no command. -/
  | unknownCommand (scope : Scope) (word : String)
  /-- An option without a value, or with an empty one. -/
  | missingValue (option : Switch)
  /-- An option that is given twice. -/
  | repeated (scope : Scope) (option : Switch)
  /-- A flag with a value, and the switches given before it. -/
  | unwantedValue (scope : Scope) (flag : Switch) (value : String) (given : List Switch)
deriving DecidableEq, Repr

/-- What a command line answers by itself. -/
inductive Reply
  | help (scope : Scope)
  | version
  | refusal (fault : Fault)
deriving DecidableEq, Repr

/-! ## usage -/

/-- How a scope is used. -/
def Scope.usage : Scope → String
  | .program => "daystep [OPTIONS] [COMMAND]"
  | .help => "daystep help [COMMAND]..."
  | scope => s!"{scope.path} [OPTIONS]"

/-- How a scope is used together with the switches in use, one by one. -/
def Scope.usageWith (scope : Scope) (given : List Switch) : String :=
  if given.isEmpty then scope.usage
  else " ".intercalate (scope.path :: given.map Switch.label)

/-- How a flag of a scope is used together with the switches in use: the ones that come from
elsewhere one by one, then the scope's own ones as a choice if any of them was given. -/
def Scope.usageOfFlag (scope : Scope) (flag : Switch) (given : List Switch) : String :=
  let choice := if given.any (· ∈ scope.own) then scope.own else []
  let single := (given ++ [flag]).eraseDups.filter (· ∉ choice)
  let choiceText := "|".intercalate (choice.map Switch.label)
  " ".intercalate <| scope.path :: single.map Switch.label ++
    if choice.isEmpty then [] else [s!"<{choiceText}>"]

/-! ## faults -/

namespace Fault

/-- The wording of a fault. -/
def message : Fault → String
  | .unexpected _ word _ => s!"unexpected argument '{Text.withoutControls word}' found"
  | .commandAfterDashes _ word => s!"unexpected argument '{Text.withoutControls word}' found"
  | .unknownCommand _ word => s!"unrecognized subcommand '{Text.withoutControls word}'"
  | .missingValue option =>
    s!"a value is required for '{option.label}' but none was supplied"
  | .repeated _ option => s!"the argument '{option.label}' cannot be used multiple times"
  | .unwantedValue _ flag value _ =>
    let shown := Text.withoutControls value
    s!"unexpected value '{shown}' for '{flag.label}' found; no more were expected"

/-- A hint at what may have been meant. -/
def tip : Fault → Option String
  | .commandAfterDashes _ word =>
    some s!"subcommand '{word}' exists; to use it, remove the '--' before it"
  | _ => none

/-- How the command line is meant to be used. -/
def usage : Fault → Option String
  | .unexpected scope _ given => some (scope.usageWith given)
  | .commandAfterDashes scope _ => some scope.usage
  | .unknownCommand scope _ => some scope.usage
  | .missingValue _ => none
  | .repeated scope _ => some scope.usage
  | .unwantedValue scope flag _ given => some (scope.usageOfFlag flag given)

/-- Whether the scope of a fault has a switch that asks for help. -/
def hasHelp : Fault → Bool
  | .unknownCommand scope _ => Switch.help ∈ scope.switches
  | _ => true

/-- The text of a fault: its parts with an empty line between them. -/
def text (f : Fault) : String :=
  let parts := [some ("error: " ++ f.message), f.tip.map ("  tip: " ++ ·),
    f.usage.map ("Usage: " ++ ·),
    if f.hasHelp then some "For more information, try '--help'." else none]
  "\n\n".intercalate (parts.filterMap id) ++ "\n"

end Fault

/-! ## help -/

/-- Rows of a table with two columns, of which the second one is aligned. -/
def table (rows : List (String × String)) : String :=
  let width := (rows.map fun (left, _) => left.length).foldl max 0
  String.join <| rows.map fun (left, right) =>
    "  " ++ left ++ "".pushn ' ' (width + 2 - left.length) ++ right ++ "\n"

namespace Scope

/-- The row of a command in a help text. -/
def row (command : Scope) (name : String) : String × String := (name, command.summary)

/-- The tables of a help text, with their titles. -/
def tables (scope : Scope) : List (String × List (String × String)) :=
  let options := ("Options", scope.switches.map fun s => (s!"-{s.letter}, {s.label}", s.summary))
  match scope with
  | .program =>
    [("Commands", [row .generate "generate", row .verify "verify", row .help "help"]), options]
  | .help => [("Arguments", [("[COMMAND]...", "Print help for the subcommand(s)")])]
  | _ => [options]

/-- The help text of a scope. -/
def helpText (scope : Scope) : String :=
  let tables := scope.tables.map fun (title, rows) => s!"\n{title}:\n{table rows}"
  s!"{scope.summary}\n\nUsage: {scope.usage}\n{String.join tables}"

end Scope

namespace Reply

/-- The text of a reply. -/
def text : Reply → String
  | .help scope => scope.helpText
  | .version => "daystep 0.1.0\n"
  | .refusal fault => fault.text

/-- The exit code of a reply. -/
def exitCode : Reply → Nat
  | .refusal _ => 2
  | _ => 0

/-- What is seen of a run that only replies. -/
def outcome (r : Reply) : Program.Outcome :=
  if r.exitCode = 0 then { stdout := r.text }
  else { exitCode := r.exitCode, stderr := r.text }

end Reply

end Almanac.CommandLine
