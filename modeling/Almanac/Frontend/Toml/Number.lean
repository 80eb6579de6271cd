import Almanac.Calendar.Date
import Almanac.Frontend.Toml.Scan
import Almanac.Frontend.Toml.Value

/-!
# Almanac.Frontend.Toml.Number

Reading the values that begin with a digit or a sign: integers, floating-point numbers, and dates
with or without a time.  A date is tried first, then a floating-point number, then an integer, so
each reads only what the later ones would not read in full.
-/

namespace Almanac.Toml

/-! ## digits -/

/-- The numeric value of a digit in a base up to sixteen. -/
def digitIn? (base : Nat) (c : Char) : Option Nat :=
  let value :=
    if c.isDigit then c.toNat - '0'.toNat
    else if 'a' ≤ c ∧ c ≤ 'f' then c.toNat - 'a'.toNat + 10
    else if 'A' ≤ c ∧ c ≤ 'F' then c.toNat - 'A'.toNat + 10
    else base
  if value < base then some value else none

/-- Further digits behind the number `n` of `count` digits, each of which may follow an
underscore. -/
def scanMoreDigits (base n count : Nat) : List Char → (Nat × Nat) × List Char
  | [] => ((n, count), [])
  | '_' :: c :: rest =>
    match digitIn? base c with
    | some d => scanMoreDigits base (n * base + d) (count + 1) rest
    | none => ((n, count), '_' :: c :: rest)
  | c :: rest =>
    match digitIn? base c with
    | some d => scanMoreDigits base (n * base + d) (count + 1) rest
    | none => ((n, count), c :: rest)

/-- At least one digit: their number and how many there are. -/
def scanDigits (base : Nat) : Scan (Nat × Nat)
  | [] => none
  | c :: rest => (digitIn? base c).map fun d => scanMoreDigits base d 1 rest

/-- A sign, or none for a number that is not negative. -/
def scanSign : List Char → Bool × List Char
  | '-' :: rest => (true, rest)
  | '+' :: rest => (false, rest)
  | cs => (false, cs)

/-- A whole decimal number without superfluous zeros in front: whether it is negative, and its
size. -/
def scanWhole (cs : List Char) : Option ((Bool × Nat) × List Char) :=
  let (negative, rest) := scanSign cs
  match rest with
  | '0' :: rest => some ((negative, 0), rest)
  | rest => do
    let ((n, _), rest) ← scanDigits 10 rest
    pure ((negative, n), rest)

/-! ## integers and floating-point numbers -/

/-- The integer if it fits in 64 bits; larger ones are not TOML. -/
def integer? (n : Int) : Option Value := if FitsInt64 n then some (.integer n) else none

/-- An integer. -/
def scanInteger : Scan Value
  | '0' :: 'x' :: rest => do
    let ((n, _), rest) ← scanDigits 16 rest
    pure (← integer? n, rest)
  | '0' :: 'o' :: rest => do
    let ((n, _), rest) ← scanDigits 8 rest
    pure (← integer? n, rest)
  | '0' :: 'b' :: rest => do
    let ((n, _), rest) ← scanDigits 2 rest
    pure (← integer? n, rest)
  | cs => do
    let ((negative, n), rest) ← scanWhole cs
    pure (← integer? (if negative then -n else n), rest)

/-- The digits behind a decimal point, none if there is no point. -/
def scanFraction (n : Nat) : Scan (Nat × Nat)
  | '.' :: rest => do
    let ((d, count), rest) ← scanDigits 10 rest
    pure ((n * Binary64.pow10 count + d, count), rest)
  | cs => some ((n, 0), cs)

/-- An exponent, zero if there is none. -/
def scanExponent (cs : List Char) : Option (Int × List Char) :=
  match cs with
  | c :: rest =>
    if c = 'e' ∨ c = 'E' then do
      let (negative, rest) := scanSign rest
      let ((n, _), rest) ← scanDigits 10 rest
      pure (if negative then -n else n, rest)
    else some (0, cs)
  | [] => some (0, [])

/-- An infinity or a number that is none. -/
def scanSpecial (cs : List Char) : Option (Binary64 × List Char) :=
  match scanSign cs with
  | (negative, 'i' :: 'n' :: 'f' :: rest) => some (.infinite negative, rest)
  | (_, 'n' :: 'a' :: 'n' :: rest) => some (.nan, rest)
  | _ => none

/-- A floating-point number: a special one, or a whole number with a fraction, an exponent or
both.  One that is rounded to positive infinity is not TOML. -/
def scanFloat (cs : List Char) : Option (Value × List Char) :=
  match scanSpecial cs with
  | some (x, rest) => some (.float x, rest)
  | none => do
    let ((negative, n), whole) ← scanWhole cs
    let ((digits, places), fraction) ← scanFraction n whole
    let (exponent, rest) ← scanExponent fraction
    if ¬ whole.head?.any (fun c => c = '.' ∨ c = 'e' ∨ c = 'E') then none
    else
      let x := Binary64.ofDecimal negative digits (exponent - places)
      if x = .infinite false then none else some (.float x, rest)

/-! ## dates and times -/

/-- A number of exactly `count` digits. -/
def scanFixed (count : Nat) (cs : List Char) : Option (Nat × List Char) :=
  let digits := cs.take count
  if digits.length = count ∧ digits.all Char.isDigit then
    some (digits.foldl (fun n c => 10 * n + (c.toNat - '0'.toNat)) 0, cs.drop count)
  else none

/-- A number of exactly two digits up to `limit`. -/
def scanPair (limit : Nat) (cs : List Char) : Option (Nat × List Char) := do
  let (n, rest) ← scanFixed 2 cs
  if n ≤ limit then pure (n, rest) else none

/-- The text after a character that has to be there. -/
def after? (expected : Char) : List Char → Option (List Char)
  | c :: rest => if c = expected then some rest else none
  | [] => none

/-- A date that exists. -/
def scanDate : Scan Date := fun cs => do
  let (year, rest) ← scanFixed 4 cs
  let rest ← after? '-' rest
  let (month, rest) ← scanFixed 2 rest
  let rest ← after? '-' rest
  let (day, rest) ← scanFixed 2 rest
  let date : Date := ⟨year, month, day⟩
  if date.Valid then pure (date, rest) else none

/-- The text after a time of day, whose last minute may have 61 seconds. -/
def afterTime? (cs : List Char) : Option (List Char) := do
  let (_, rest) ← scanPair 23 cs
  let (_, rest) ← scanPair 59 (← after? ':' rest)
  let (_, rest) ← scanPair 60 (← after? ':' rest)
  match rest with
  | '.' :: fraction =>
    if fraction.head?.any Char.isDigit then pure (fraction.dropWhile Char.isDigit) else none
  | rest => pure rest

/-- The text after a distance from UTC. -/
def afterOffset? : List Char → Option (List Char)
  | 'Z' :: rest => some rest
  | 'z' :: rest => some rest
  | c :: rest =>
    if c = '+' ∨ c = '-' then do
      let (_, rest) ← scanPair 23 rest
      let (_, rest) ← scanPair 59 (← after? ':' rest)
      pure rest
    else none
  | [] => none

/-- The text after a time of day and a distance from UTC, which may follow a date. -/
def afterDate (cs : List Char) : List Char :=
  match cs with
  | c :: rest =>
    if c = 'T' ∨ c = 't' ∨ c = ' ' then
      match afterTime? rest with
      | some rest => (afterOffset? rest).getD rest
      | none => cs
    else cs
  | [] => []

/-- A date, a date and a time, or a time. -/
def scanDateTime (cs : List Char) : Option (Value × List Char) :=
  match scanDate cs with
  | some (_, rest) => some (.dateTime, afterDate rest)
  | none => (afterTime? cs).map (.dateTime, ·)

/-- A value that begins with a digit or a sign. -/
def scanNumber (cs : List Char) : Option (Value × List Char) :=
  scanDateTime cs <|> scanFloat cs <|> scanInteger cs

end Almanac.Toml
