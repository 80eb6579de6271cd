/-!
# Almanac.Frontend.Text.ControlSequence

Text without the control characters and control sequences of terminals, as it is shown where
nobody interprets them.

1. Of the control characters only those that are whitespace stay.
2. An escape character begins a sequence, inside of another sequence too; a cancel or substitute
   character ends any sequence.
3. A control sequence (`[` behind the escape) ends with its first character from `@` to `~`, any
   other short one with its first character from `0` to `~`.  Whitespace ends both and stays.
4. A command (`]`) goes to the next bell.  A device control string (`P`) has a head of parameters;
   its body, and the strings that `X`, `^` and `_` begin, go to the next byte `9C`, also if it is
   only a part of a character.
5. A sequence that does not end takes the rest of the text.
-/

namespace Almanac.Text

namespace ControlSequence

/-- What a character is read as. -/
inductive Mode
  /-- Shown text. -/
  | plain
  /-- Behind an escape character. -/
  | escape
  /-- Inside of a short sequence, behind its first intermediate character. -/
  | intermediate
  /-- Inside of a control sequence. -/
  | control
  /-- Inside of a command. -/
  | command
  /-- At the beginning of a device control string. -/
  | device
  /-- Behind a parameter of a device control string. -/
  | deviceParameter
  /-- Behind an intermediate character of a device control string. -/
  | deviceIntermediate
  /-- Inside of a string. -/
  | string
deriving DecidableEq, Repr

/-- A control character that is whitespace. -/
def isLayout (c : Char) : Bool := c == '\t' || c == '\n' || c == '\x0c' || c == '\r'

/-- Whether a character is shown when it is read in a mode. -/
def Mode.shows (mode : Mode) (c : Char) : Bool :=
  match mode with
  | .plain => (' ' ≤ c && c ≠ '\x7f') || isLayout c
  | .escape | .intermediate | .control => isLayout c
  | _ => false

/-- A character that may stand between the beginning of a sequence and its end. -/
def isIntermediate (c : Char) : Bool := ' ' ≤ c && c ≤ '/'

/-- The mode behind a character that is not shown. -/
def Mode.next (mode : Mode) (c : Char) : Mode :=
  if c = '\x1b' then .escape
  else if c = '\x18' ∨ c = '\x1a' then .plain
  else
    match mode with
    | .plain => .plain
    | .escape =>
      if isIntermediate c then .intermediate
      else if c = '[' then .control
      else if c = ']' then .command
      else if c = 'P' then .device
      else if c = 'X' ∨ c = '^' ∨ c = '_' then .string
      else if '0' ≤ c ∧ c ≤ '~' then .plain
      else .escape
    | .intermediate => if '0' ≤ c ∧ c ≤ '~' then .plain else .intermediate
    | .control => if '@' ≤ c ∧ c ≤ '~' then .plain else .control
    | .command => if c = '\x07' then .plain else .command
    | .device =>
      if isIntermediate c then .deviceIntermediate
      else if '0' ≤ c ∧ c ≤ '?' then .deviceParameter
      else if '@' ≤ c ∧ c ≤ '~' then .string
      else .device
    | .deviceParameter =>
      if isIntermediate c then .deviceIntermediate
      else if '<' ≤ c ∧ c ≤ '~' then .string
      else .deviceParameter
    | .deviceIntermediate => if '0' ≤ c ∧ c ≤ '~' then .string else .deviceIntermediate
    | .string => if 0x9c ∈ String.utf8EncodeChar c then .plain else .string

/-- The characters that are shown, from a mode on. -/
def shown (mode : Mode) : List Char → List Char
  | [] => []
  | c :: rest => if mode.shows c then c :: shown .plain rest else shown (mode.next c) rest

end ControlSequence

/-- A text without the control characters and sequences of terminals. -/
def withoutControls (s : String) : String :=
  String.ofList (ControlSequence.shown .plain s.toList)

end Almanac.Text
