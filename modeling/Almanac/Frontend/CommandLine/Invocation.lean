import Almanac.Frontend.CommandLine.Reply

/-!
# Almanac.Frontend.CommandLine.Invocation

Reading a command line, word by word from the left.

1. A word that names a command ends the scope of the program; the rest belongs to the command.
2. `--` ends switches and commands.  As no scope takes further words, one that follows is a fault.
3. `--word` and `--word=value` give a switch by its word; `-xyz` gives switches by their letters,
   where what follows the letter of an option is its value, with or without `=`.
4. An option without an attached value waits for the next word that is not like a switch.  That word
   is looked at when the next switch is met or the scope ends.  So a switch or word that is not
   known is told in place of an earlier option's bad value, and a fault behind the command in place
   of a bad value in front of it.
5. What is given behind the command replaces what is given in front of it.
-/

namespace Almanac.CommandLine

/-- What a command line asks for, with paths as they are given. -/
abbrev Invocation := Request String

/-! ## what is given -/

/-- An option that is not settled yet: it waits for its value or has one to be looked at. -/
structure Pending where
  option : Switch
  value : Option String := none
deriving DecidableEq, Repr

/-- What was given in one scope so far. -/
structure Given where
  verbosity : Nat := 0
  config : Option String := none
  path : Option String := none
  /-- The switches in use, the one given last at the end. -/
  switches : List Switch := []
  pending : Option Pending := none
deriving DecidableEq, Repr

namespace Given

/-- The most that is counted of `--verbose`. -/
def maxVerbosity : Nat := 255

/-- The switches in use once one more is given. -/
def use (g : Given) (s : Switch) : List Switch := g.switches.erase s ++ [s]

/-- Whether an option waits for the next word. -/
def isWaiting (g : Given) : Bool := g.pending.any (·.value.isNone)

/-- Gives a value to an option. -/
def assign (scope : Scope) (g : Given) (option : Switch) (value : String) : Except Reply Given :=
  if option ∈ g.switches then .error (.refusal (.repeated scope option))
  else if value.isEmpty then .error (.refusal (.missingValue option))
  else if option = .config then .ok { g with config := some value, switches := g.use option }
  else .ok { g with path := some value, switches := g.use option }

/-- Looks at the value of a pending option. -/
def settle (scope : Scope) (g : Given) : Except Reply Given :=
  match g.pending with
  | none => .ok g
  | some ⟨option, none⟩ => .error (.refusal (.missingValue option))
  | some ⟨option, some value⟩ => assign scope { g with pending := none } option value

/-- The switches in use, with an option whose value was not looked at yet; one that repeats an
earlier option counts for neither of the two. -/
def inUse (g : Given) : List Switch :=
  match g.pending with
  | some ⟨option, some _⟩ =>
    if option ∈ g.switches then g.switches.erase option else g.use option
  | _ => g.switches

/-- Gives a flag. -/
def raise (scope : Scope) (g : Given) (flag : Switch) : Except Reply Given := do
  let g ← g.settle scope
  match flag with
  | .help => .error (.help scope)
  | .version => .error .version
  | _ => pure { g with verbosity := min (g.verbosity + 1) maxVerbosity, switches := g.use flag }

/-- Gives an option, with its value if that is attached. -/
def provide (scope : Scope) (g : Given) (option : Switch) (value : Option String) :
    Except Reply Given := do
  let g ← g.settle scope
  match value with
  | some value => g.assign scope option value
  | none => pure { g with pending := some ⟨option, none⟩ }

/-- Gives the switch behind two dashes. -/
def long (scope : Scope) (g : Given) (text : List Char) : Except Reply Given :=
  let word := String.ofList (text.takeWhile (· ≠ '='))
  let value := match text.dropWhile (· ≠ '=') with
    | [] => none
    | _ :: value => some (String.ofList value)
  match scope.switchOfWord? word with
  | none => .error (.refusal (.unexpected scope ("--" ++ word) g.inUse))
  | some s =>
    if s.value?.isSome then g.provide scope s value
    else
      match value with
      | none => g.raise scope s
      | some value => .error (.refusal (.unwantedValue scope s value g.switches))

/-- Gives the switches behind one dash. -/
def short (scope : Scope) (g : Given) : List Char → Except Reply Given
  | [] => .ok g
  | c :: rest =>
    match scope.switchOfLetter? c with
    | none => .error (.refusal (.unexpected scope (String.ofList ['-', c]) []))
    | some s =>
      if s.value?.isSome then
        g.provide scope s <| match rest with
          | [] => none
          | '=' :: value => some (String.ofList value)
          | value => some (String.ofList value)
      else do
        let g ← g.raise scope s
        short scope g rest

end Given

/-! ## scopes -/

/-- The fault of a word that is neither a switch nor a value nor a command. -/
def strayWord (scope : Scope) (word : String) (afterDashes : Bool) : Fault :=
  if scope ≠ .program then .unexpected scope word []
  else if afterDashes ∧ (scope.command? word).isSome then .commandAfterDashes scope word
  else .unknownCommand scope word

/-- The help that the words behind `help` ask for. -/
def helpOn (scope : Scope) : List String → Reply
  | [] => .help scope
  | word :: rest =>
    match scope.command? word with
    | none => .refusal (.unknownCommand scope word)
    | some command => helpOn command rest

/-- Reads the words of a scope.  If one of them names a command, the command and the words behind it
are left. -/
def scan (scope : Scope) (g : Given) : List String →
    Except Reply (Given × Option (Scope × List String))
  | [] => .ok (g, none)
  | word :: rest =>
    match if g.isWaiting then none else scope.command? word with
    | some .help => .error (helpOn scope rest)
    | some command => .ok (g, some (command, rest))
    | none =>
      match word.toList with
      | ['-', '-'] =>
        match rest with
        | [] => .ok (g, none)
        | word :: _ => .error (.refusal (strayWord scope word true))
      | '-' :: '-' :: text => do scan scope (← g.long scope text) rest
      | '-' :: c :: text => do scan scope (← g.short scope (c :: text)) rest
      | _ =>
        match g.pending with
        | some ⟨option, none⟩ => scan scope { g with pending := some ⟨option, some word⟩ } rest
        | _ => .error (.refusal (strayWord scope word false))

/-! ## invocations -/

namespace Invocation

/-- What is given in front of a command and behind it. -/
def combine (front behind : Given) (command : Option (Command String)) :
    Invocation where
  verbosity := if behind.verbosity = 0 then front.verbosity else behind.verbosity
  config := behind.config <|> front.config
  command := command

/-- Reads the words of a command line, without the name of the program. -/
def ofWords (words : List String) : Except Reply Invocation := do
  let (front, rest) ← scan .program {} words
  match rest with
  | none => pure (combine (← front.settle .program) {} none)
  | some (scope, words) =>
    let behind ← (← scan scope {} words).1.settle scope
    let command := if scope = .verify then .verify behind.path else .generate behind.path
    pure (combine (← front.settle .program) behind (some command))

end Invocation

end Almanac.CommandLine
