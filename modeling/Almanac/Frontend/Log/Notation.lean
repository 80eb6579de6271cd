import Almanac.Frontend.Log.Filter
import Almanac.Frontend.Text.CharacterClass
import Almanac.Text.Decimal
import Almanac.Frontend.Text.Pattern

/-!
# Almanac.Frontend.Log.Notation

How the filter of a log is written: directives with commas between them.

1. A directive is a level or a selector, or a selector and its level with an equals sign between
   them.  A selector without a level gets all details.
2. A selector is a target, or a target that may be empty with a span and a demand in brackets: the
   name of the span, which may be left out before a demand, and the demand in braces.
3. A demand is the name of a field, and the value that it should have behind an equals sign.  A
   value that is no number is a pattern.
4. One directive that cannot be read makes the whole filter unreadable (`Filter.ofText?`), or is
   left out (`Filter.ofText`).
-/

namespace Almanac.Log

/-! ## levels -/

namespace Level

/-- A place on the scale in decimal digits, which may have a plus sign and zeros in front. -/
def rankOfText? (text : String) : Option Nat :=
  let digits := match text.toList with
    | '+' :: digits => digits
    | digits => digits
  if digits.isEmpty then none
  else (Decimal.readDigits Level.trace.rank .tooLarge 0 digits).toOption

/-- The level with a name, in any case, or with a place on the scale. -/
def ofText? (text : String) : Option Level :=
  [.off, .error, .warn, .info, .debug, .trace].find? fun level =>
    text.toUpper = level.name ∨ rankOfText? text = some level.rank

end Level

/-! ## demands -/

/-- Whether a number can end in this way: with an exponent, or without one. -/
def isExponent : List Char → Bool
  | [] => true
  | c :: rest =>
    let digits := match rest with
      | '+' :: digits | '-' :: digits => digits
      | digits => digits
    (c = 'e' || c = 'E') && !digits.isEmpty && digits.all Char.isDigit

/-- Whether a text is a number without a sign: digits among which there may be a point, and an
exponent; or a word for what is too large or none. -/
def isNumber (cs : List Char) : Bool :=
  let (whole, rest) := cs.span Char.isDigit
  let (fraction, rest) := match rest with
    | '.' :: rest => rest.span Char.isDigit
    | rest => ([], rest)
  String.ofList (cs.map Char.toLower) ∈ ["inf", "infinity", "nan"] ||
    !(whole.isEmpty && fraction.isEmpty) && isExponent rest

/-- Whether a text can be asked for as a value.  All numbers are patterns too but those with a plus
sign, which would repeat what is not there. -/
def isValue (text : String) : Bool :=
  Text.isPattern text ||
    match text.toList with
    | '+' :: number => isNumber number
    | _ => false

/-- Reads a demand.  What follows a second equals sign is not looked at. -/
def Demand.ofText? (text : String) : Option Demand :=
  match text.splitOn "=" with
  | [] => none
  | [name] => some { name := name }
  | name :: value :: _ => if isValue value then some { name := name, value := some value } else none

/-! ## directives -/

/-- A character of a directive without the blanks around it, and the one at the same place of the
directive with them.  The marks that divide a directive are looked for among the former, its parts
consist of the latter; so blanks in front shift all parts. -/
abbrev Cell := Char × Char

/-- The part of a directive in some cells. -/
def textOf (cells : List Cell) : String := String.ofList (cells.map Prod.snd)

/-- The cells up to a mark, and the others from there on. -/
def upTo (marks : List Char) (cells : List Cell) : List Cell × List Cell :=
  cells.span fun (c, _) => c ∉ marks

/-- The cells of a directive, and what the text with the blanks has behind the last of them. -/
def cellsOf (text : List Char) : List Cell × List Char :=
  let start := text.dropWhile Text.isWhitespace
  let trimmed := (start.reverse.dropWhile Text.isWhitespace).reverse
  (trimmed.zip text, text.drop trimmed.length)

/-- Whether a directive can begin with a character. -/
def isDirectiveStart (c : Char) : Bool :=
  Text.isAlphanumeric c || c ∈ ['-', ':', '_', '[']

/-- Reads a span and a demand, below the opening bracket, and hands on what stands behind the
closing one.  The name of a span may be empty where there is no demand, although there is no such
span. -/
def bracketed? (cells : List Cell) : Option (Option String × Option Demand × List Cell) :=
  let (name, rest) := upTo [']', '\x7b'] cells
  match rest with
  | (']', _) :: rest => some (some (textOf name), none, rest)
  | _ :: rest =>
    let (demand, rest) := upTo ['\x7d'] rest
    match rest with
    | _ :: (']', _) :: rest =>
      if demand.isEmpty then none
      else
        let span := if name.isEmpty then none else some (textOf name)
        (Demand.ofText? (textOf demand)).map fun demand => (span, some demand, rest)
    | _ => none
  | [] => none

/-- Reads a level up to the end of a directive; nothing stands for all details. -/
def levelAtEnd? (cells : List Cell) (ending : List Char) : Option Level :=
  let text := cells.map Prod.snd ++ ending
  if text.isEmpty then some .trace else Level.ofText? (String.ofList text)

/-- Reads a directive. -/
def Directive.ofText? (text : String) : Option Directive := do
  let (cells, ending) := cellsOf text.toList
  let (first, _) ← cells.head?
  if !isDirectiveStart first then none
  else
    let (target, rest) := upTo ['=', '['] cells
    match rest with
    | [] => some ((Level.ofText? text).elim ⟨{ target := text }, .trace⟩ (⟨{}, ·⟩))
    | ('=', _) :: rest => (levelAtEnd? rest ending).map (⟨{ target := textOf target }, ·⟩)
    | _ :: rest =>
      let (span, demand, rest) ← bracketed? rest
      let selector := { target := textOf target, span := span, demand := demand }
      match rest with
      | [] => some ⟨selector, .trace⟩
      | ('=', _) :: rest => (levelAtEnd? rest ending).map (⟨selector, ·⟩)
      | _ => none

/-! ## filters -/

namespace Filter

/-- The directives of a text, with commas between them. -/
def pieces (text : String) : List String := (text.splitOn ",").filter (· ≠ "")

/-- The filter with a list of directives; without any, only errors are shown. -/
def orErrors (ds : List Directive) : Filter := if ds.isEmpty then errorsOnly else ofDirectives ds

/-- Reads directives, all of which have to be readable. -/
def ofText? (text : String) : Option Filter :=
  ((pieces text).mapM Directive.ofText?).map orErrors

/-- Reads directives and leaves out those that cannot be read. -/
def ofText (text : String) : Filter := orErrors ((pieces text).filterMap Directive.ofText?)

end Filter

end Almanac.Log
