import Almanac.Frontend.Text.CharacterClass

/-!
# Almanac.Frontend.Text.Pattern

Which texts are patterns: regular expressions that can be matched without looking back.

1. A pattern consists of alternatives between bars, and an alternative of items: characters, `.`,
   `^`, `$`, escapes, classes in brackets and groups in parentheses.
2. Behind an item, but not at the beginning of an alternative and not behind flags, there may be
   `*`, `+` or `?`, and a further `?` behind it.  A count in braces is not known here.
3. A group begins with `?:`, with flags, or with a name that no other group has, or is numbered.
   Flags hold up to the end of the group that they stand in.
4. A class holds characters, ranges whose ends are in order, escapes and classes.
5. Items match characters, or bytes behind the flag `-u`.  Characters have no properties here: the
   escapes for digits, blanks and parts of words, boundaries of words and matching without regard
   to case are for bytes only.  Bytes, on the other hand, can only be matched as far as they are
   ASCII, so there is no `.` for them and no class may be negated.

References to groups and conditions on what follows or precedes are not known at all.
-/

namespace Almanac.Text.Pattern

/-! ## flags -/

/-- How items are meant. -/
structure Modes where
  /-- Letters stand for both of their cases. -/
  caseless : Bool := false
  /-- Items match bytes. -/
  bytewise : Bool := false
  /-- Whitespace is no item, and a number sign begins a comment. -/
  verbose : Bool := false
deriving DecidableEq, Repr

/-- Whether flags are known, without repetition, and with at most one hyphen, which does not stand
at the end. -/
def areFlags (flags : List Char) : Bool :=
  flags.all (· ∈ ['i', 'm', 's', 'U', 'u', 'R', 'x', '-']) && flags.eraseDups == flags &&
    flags.getLast? ≠ some '-'

namespace Modes

/-- The modes behind flags, of which those behind a hyphen are taken back. -/
def update (m : Modes) (flags : List Char) : Modes :=
  let (given, taken) := flags.span (· ≠ '-')
  let after (flag : Char) (before : Bool) : Bool := flag ∈ given || (before && flag ∉ taken)
  { caseless := after 'i' m.caseless
    bytewise := !after 'u' !m.bytewise
    verbose := after 'x' m.verbose }

/-- Whether letters can be compared as the modes want it. -/
def haveCases (m : Modes) : Bool := m.bytewise || !m.caseless

/-- Whether a class can hold a character. -/
def classHolds (m : Modes) (c : Char) : Bool := !m.bytewise || c.toNat < 128

end Modes

/-- The text behind whitespace and comments, at the beginning of which a comment may be open. -/
def afterBlanks (inComment : Bool) : List Char → List Char
  | [] => []
  | c :: rest =>
    if inComment then afterBlanks (c ≠ '\n') rest
    else if c = '#' then afterBlanks true rest
    else if isWhitespace c then afterBlanks false rest
    else c :: rest

/-- The text from the next item on. -/
def Modes.toItem (m : Modes) (cs : List Char) : List Char :=
  if m.verbose then afterBlanks false cs else cs

/-! ## escapes -/

/-- What an escape stands for. -/
inductive Escape
  | char (c : Char)
  | classOfChars
  | position
deriving DecidableEq, Repr

/-- Reads a character that is given by a number of hexadecimal digits. -/
def hexChar? (count : Nat) (cs : List Char) : Option (Char × List Char) :=
  let digits := cs.take count
  let isHex (c : Char) : Bool := c.isDigit || ('a' ≤ c.toLower && c.toLower ≤ 'f')
  if digits.length = count ∧ digits.all isHex then
    let value := digits.foldl (fun n c =>
      n * 16 + if c.isDigit then c.toNat - '0'.toNat else c.toLower.toNat - 'a'.toNat + 10) 0
    if value.isValidChar then some (Char.ofNat value, cs.drop count) else none
  else none

/-- Reads what stands behind a backslash. -/
def Modes.escape? (m : Modes) : List Char → Option (Escape × List Char)
  | [] => none
  | c :: rest =>
    let hex (count : Nat) := (hexChar? count rest).map fun (c, rest) => (.char c, rest)
    if c ∈ ['d', 's', 'w'] then if m.bytewise then some (.classOfChars, rest) else none
    else if c ∈ ['b', 'B', '<', '>'] then if m.bytewise then some (.position, rest) else none
    else if c = 'A' ∨ c = 'z' then some (.position, rest)
    else if c = 'x' then
      match hexChar? 2 rest with
      | some (c, rest) => if m.classHolds c then some (.char c, rest) else none
      | none => none
    else if c = 'u' then hex 4
    else if c = 'U' then hex 8
    else if c = 'a' then some (.char '\x07', rest)
    else if c = 'f' then some (.char '\x0c', rest)
    else if c = 'n' then some (.char '\n', rest)
    else if c = 'r' then some (.char '\r', rest)
    else if c = 't' then some (.char '\t', rest)
    else if c = 'v' then some (.char '\x0b', rest)
    else if c.toNat < 128 ∧ !c.isAlphanum then some (.char c, rest)
    else none

/-! ## classes -/

/-- The names of classes that stand between colons. -/
def classNames : List String :=
  ["alnum", "alpha", "ascii", "blank", "cntrl", "digit", "graph", "lower", "print", "punct",
    "space", "upper", "word", "xdigit"]

/-- Reads a class with a name, below its opening bracket: whether it is negated, and the text behind
it. -/
def namedClass? : List Char → Option (Bool × List Char)
  | ':' :: rest =>
    let negated := rest.head? = some '^'
    let (name, rest) := (if negated then rest.tail else rest).span (· ≠ ':')
    match rest with
    | ':' :: ']' :: rest =>
      if String.ofList name ∈ classNames then some (negated, rest) else none
    | _ => none
  | _ => none

/-- The text below the beginning of a class, if it may begin like this: a caret may come first, and
then hyphens or else one closing bracket may stand for themselves. -/
def Modes.openClass? (m : Modes) (cs : List Char) : Option (List Char) :=
  let cs := m.toItem cs
  let negated := cs.head? = some '^'
  let cs := if negated then m.toItem cs.tail else cs
  if !m.haveCases || (negated && m.bytewise) then none
  else
    match cs with
    | ']' :: rest => some rest
    | '-' :: _ => some (cs.dropWhile fun c => c = '-' || (m.verbose && isWhitespace c))
    | _ => some cs

/-- Reads one end of a range or an item that is none: a character, or an escape for several. -/
def Modes.classItem? (m : Modes) : List Char → Option (Option Char × List Char)
  | [] => none
  | '\\' :: rest => do
    match ← m.escape? rest with
    | (.char c, rest) => if m.classHolds c then some (some c, rest) else none
    | (.classOfChars, rest) => some (none, rest)
    | (.position, _) => none
  | c :: rest => if m.classHolds c then some (some c, rest) else none

/-- The text behind `depth` classes that are open.  Each step takes a character, so `fuel` is enough
if it exceeds the length of the text. -/
def Modes.afterClasses? (m : Modes) (fuel depth : Nat) (cs : List Char) : Option (List Char) :=
  match fuel, m.toItem cs with
  | 0, _ | _, [] => none
  | fuel + 1, ']' :: rest => if depth = 1 then some rest else m.afterClasses? fuel (depth - 1) rest
  | fuel + 1, '[' :: rest =>
    match namedClass? rest with
    | some (negated, rest) =>
      if negated && m.bytewise then none else m.afterClasses? fuel depth rest
    | none => do m.afterClasses? fuel (depth + 1) (← m.openClass? rest)
  | fuel + 1, '&' :: '&' :: rest
  | fuel + 1, '-' :: '-' :: rest
  | fuel + 1, '~' :: '~' :: rest => m.afterClasses? fuel depth rest
  | fuel + 1, cs => do
    let (first, rest) ← m.classItem? cs
    match m.toItem rest with
    | '-' :: rest =>
      match m.toItem rest with
      | ']' :: _ | '-' :: _ => m.afterClasses? fuel depth ('-' :: rest)
      | rest =>
        match first, ← m.classItem? rest with
        | some first, (some last, rest) =>
          if first ≤ last then m.afterClasses? fuel depth rest else none
        | _, _ => none
    | rest => m.afterClasses? fuel depth rest

/-! ## groups -/

/-- Whether a group can have a name. -/
def isGroupName : List Char → Bool
  | [] => false
  | c :: rest =>
    (c = '_' || (isAlphanumeric c && !c.isDigit)) &&
      rest.all fun c => c ∈ ['_', '.', '[', ']'] || isAlphanumeric c

/-- What an opening parenthesis begins. -/
inductive Opening
  | group (name : Option String) (flags : List Char)
  | flags (flags : List Char)
deriving DecidableEq, Repr

/-- Reads what stands behind an opening parenthesis before the items of the group. -/
def opening? : List Char → Option (Opening × List Char)
  | '?' :: 'P' :: '<' :: rest | '?' :: '<' :: rest =>
    let (name, rest) := rest.span (· ≠ '>')
    if isGroupName name ∧ !rest.isEmpty then
      some (.group (some (String.ofList name)) [], rest.tail)
    else none
  | '?' :: rest =>
    let (flags, rest) := rest.span fun c => c ≠ ':' && c ≠ ')'
    if areFlags flags then
      match rest with
      | ':' :: rest => some (.group none flags, rest)
      | ')' :: rest => if flags.isEmpty then none else some (.flags flags, rest)
      | _ => none
    else none
  | rest => some (.group none [], rest)

/-! ## patterns -/

/-- How far a pattern is read. -/
structure Progress where
  modes : Modes := {}
  /-- The modes behind each of the groups that are open, from the innermost one on. -/
  outer : List Modes := []
  /-- The names of groups so far. -/
  names : List String := []
  /-- Whether the last thing read can be repeated. -/
  repeatable : Bool := false
deriving DecidableEq, Repr

/-- What is known below an opening parenthesis, if it may stand there. -/
def Progress.begin? (p : Progress) : Opening → Option Progress
  | .flags flags => some { p with modes := p.modes.update flags, repeatable := false }
  | .group name flags =>
    if p.names.any (name = some ·) then none
    else
      some
        { modes := p.modes.update flags
          outer := p.modes :: p.outer
          names := name.toList ++ p.names }

/-- Whether a pattern goes on with a text and ends with it.  Each step takes a character, so `fuel`
is enough if it exceeds the length of the text. -/
def continues (fuel : Nat) (p : Progress) (cs : List Char) : Bool :=
  match fuel, p.modes.toItem cs with
  | 0, _ => false
  | _, [] => p.outer.isEmpty
  | fuel + 1, '(' :: rest =>
    (opening? (p.modes.toItem rest)).any fun (opening, rest) =>
      (p.begin? opening).any fun p => continues fuel p rest
  | fuel + 1, ')' :: rest =>
    match p.outer with
    | [] => false
    | modes :: outer =>
      continues fuel { p with modes := modes, outer := outer, repeatable := true } rest
  | fuel + 1, '|' :: rest => continues fuel { p with repeatable := false } rest
  | _, '\x7b' :: _ => false
  | fuel + 1, '[' :: rest =>
    ((p.modes.openClass? rest).bind (p.modes.afterClasses? (rest.length + 1) 1 ·)).any fun rest =>
      continues fuel { p with repeatable := true } rest
  | fuel + 1, '\\' :: rest =>
    (p.modes.escape? rest).any fun (escape, rest) =>
      let known := match escape with
        | .char _ => p.modes.haveCases
        | _ => true
      known && continues fuel { p with repeatable := true } rest
  | fuel + 1, c :: rest =>
    if c = '*' ∨ c = '+' ∨ c = '?' then
      p.repeatable && continues fuel p (if rest.head? = some '?' then rest.tail else rest)
    else
      let known :=
        if c = '.' then !p.modes.bytewise else c = '^' || c = '$' || p.modes.haveCases
      known && continues fuel { p with repeatable := true } rest

end Pattern

/-- Whether a text is a pattern. -/
def isPattern (s : String) : Bool :=
  Pattern.continues (s.length + 1) {} s.toList

end Almanac.Text
