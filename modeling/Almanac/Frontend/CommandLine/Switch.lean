/-!
# Almanac.Frontend.CommandLine.Switch

The vocabulary of the command line.  A command line has a *scope*, that of the program, until a
word names a command; from there on it has the scope of the command.  Each scope knows some
*switches*, written `-x` or `--word`.  A switch that takes a value is an option, any other one a
flag.
-/

namespace Almanac.CommandLine

/-- The parts of the command line that have switches and a help text of their own. -/
inductive Scope
  | program
  | generate
  | verify
  | help
deriving DecidableEq, Repr

/-- The switches of all scopes. -/
inductive Switch
  | verbose
  | config
  | output
  | input
  | help
  | version
deriving DecidableEq, Repr

namespace Switch

/-- The letter after one dash. -/
def letter : Switch → Char
  | .verbose => 'v'
  | .config => 'c'
  | .output => 'o'
  | .input => 'i'
  | .help => 'h'
  | .version => 'V'

/-- The word after two dashes. -/
def word : Switch → String
  | .verbose => "verbose"
  | .config => "config"
  | .output => "output"
  | .input => "input"
  | .help => "help"
  | .version => "version"

/-- The name of an option's value; a flag has none. -/
def value? : Switch → Option String
  | .config => some "CONFIG"
  | .output => some "OUTPUT"
  | .input => some "INPUT"
  | _ => none

/-- How a switch is named in messages: an option with its value, and a flag that counts with
dots. -/
def label (s : Switch) : String :=
  match s.value? with
  | some value => s!"--{s.word} <{value}>"
  | none => if s = .verbose then s!"--{s.word}..." else s!"--{s.word}"

/-- What a switch does. -/
def summary : Switch → String
  | .verbose => "Increase verbosity (-v info, -vv debug, -vvv trace)"
  | .config => "Path to an optional TOML configuration file"
  | .output => "Override the output path from config (default `time.txt`)"
  | .input => "Fixture to check; defaults to the configured output path"
  | .help => "Print help"
  | .version => "Print version"

end Switch

namespace Scope

/-- The switches that are declared for one scope. -/
def own : Scope → List Switch
  | .program => [.verbose, .config]
  | .generate => [.output]
  | .verify => [.input]
  | .help => []

/-- All switches of a scope: its own, the program's, and those that ask for a text. -/
def switches : Scope → List Switch
  | .program => [.verbose, .config, .help, .version]
  | .generate => [.output, .verbose, .config, .help]
  | .verify => [.input, .verbose, .config, .help]
  | .help => []

/-- The switch of a scope with a letter. -/
def switchOfLetter? (scope : Scope) (c : Char) : Option Switch :=
  scope.switches.find? (·.letter = c)

/-- The switch of a scope with a word. -/
def switchOfWord? (scope : Scope) (word : String) : Option Switch :=
  scope.switches.find? (·.word = word)

/-- The scope of a command; only the program has commands. -/
def command? : Scope → String → Option Scope
  | .program, "generate" => some .generate
  | .program, "verify" => some .verify
  | .program, "help" => some .help
  | _, _ => none

/-- The words that lead to a scope. -/
def path : Scope → String
  | .program => "daystep"
  | .generate => "daystep generate"
  | .verify => "daystep verify"
  | .help => "daystep help"

/-- What a scope is for. -/
def summary : Scope → String
  | .program => "Generate and verify a day-stepped epoch/RFC3339 timestamp fixture"
  | .generate => "Write the fixture file"
  | .verify => "Check an existing fixture file"
  | .help => "Print this message or the help of the given subcommand(s)"

end Scope

end Almanac.CommandLine
