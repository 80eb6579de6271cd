/-!
# Almanac.Frontend.Toml.Binary64

Binary floating-point numbers of 64 bits, in exact integer arithmetic.  A finite number is a
significand below `2 ^ 53` times a power of two from `2 ^ (-1074)` to `2 ^ 971`.

* `Binary64.ofDecimal` rounds a decimal number to the nearest one, a tie to the even significand;
* `Binary64.text` writes the shortest decimal number that is rounded back to it, and of several
  the nearest, in positional notation.
-/

namespace Almanac.Toml

/-- A floating-point number. -/
inductive Binary64
  /-- The number `significand * 2 ^ exponent`, with a sign that zero has too. -/
  | finite (negative : Bool) (significand : Nat) (exponent : Int)
  | infinite (negative : Bool)
  | nan
deriving DecidableEq, Repr

namespace Binary64

/-- The least exponent of a finite number. -/
def minExponent : Int := -1074

/-- The greatest exponent of a finite number. -/
def maxExponent : Int := 971

/-- A power of two. -/
def pow2 (n : Nat) : Nat := Nat.pow 2 n

/-- A power of ten. -/
def pow10 (n : Nat) : Nat := Nat.pow 10 n

/-- The numbers below this one are significands. -/
def significandBound : Nat := pow2 53

/-! ## rounding -/

/-- The quotient to the nearest natural number, a tie to the even one. -/
def roundQuotient (numerator denominator : Nat) : Nat :=
  let q := numerator / denominator
  let r := numerator % denominator
  if 2 * r < denominator then q
  else if denominator < 2 * r then q + 1
  else if q % 2 = 0 then q else q + 1

/-- The quotient `numerator / (denominator * 2 ^ exponent)` as numerator and denominator. -/
def scaled (numerator denominator : Nat) (exponent : Int) : Nat × Nat :=
  if 0 ≤ exponent then (numerator, denominator * pow2 exponent.toNat)
  else (numerator * pow2 (-exponent).toNat, denominator)

/-- The least exponent with which a positive fraction has a significand. -/
def exponentFor (numerator denominator : Nat) : Int :=
  let guess := max minExponent ((Nat.log2 numerator : Int) - Nat.log2 denominator - 53)
  let (n, d) := scaled numerator denominator guess
  if n / d < significandBound then guess else guess + 1

/-- The nearest number to a fraction with a positive denominator. -/
def ofFraction (negative : Bool) (numerator denominator : Nat) : Binary64 :=
  if numerator = 0 then .finite negative 0 minExponent
  else
    let exponent := exponentFor numerator denominator
    let (n, d) := scaled numerator denominator exponent
    let significand := roundQuotient n d
    let (significand, exponent) :=
      if significand < significandBound then (significand, exponent)
      else (significand / 2, exponent + 1)
    if maxExponent < exponent then .infinite negative else .finite negative significand exponent

/-- The nearest number to `digits * 10 ^ power`.  Powers that are far out of range are not
multiplied out. -/
def ofDecimal (negative : Bool) (digits : Nat) (power : Int) : Binary64 :=
  let magnitude := power + (Nat.toDigits 10 digits).length
  if digits = 0 ∨ magnitude < -400 then .finite negative 0 minExponent
  else if 400 < magnitude then .infinite negative
  else if 0 ≤ power then ofFraction negative (digits * pow10 power.toNat) 1
  else ofFraction negative digits (pow10 (-power).toNat)

/-! ## shortest decimal form -/

/-- The decimal numbers that are rounded to a positive finite number, multiplied by four times a
common denominator: the number itself, the ends of the interval, whether the ends belong to it,
and the denominator. -/
structure Interval where
  low : Nat
  value : Nat
  high : Nat
  closed : Bool
  denominator : Nat

/-- The interval of a positive finite number.  Below a power of two the neighbour is only half as
far away. -/
def interval (significand : Nat) (exponent : Int) : Interval :=
  let unit := if 0 ≤ exponent then pow2 exponent.toNat else 1
  let denominator := if 0 ≤ exponent then 1 else pow2 (-exponent).toNat
  let value := 4 * significand * unit
  let nearBelow := significand = significandBound / 2 ∧ minExponent < exponent
  { low := value - (if nearBelow then unit else 2 * unit)
    value
    high := value + 2 * unit
    closed := significand % 2 = 0
    denominator := 4 * denominator }

/-- A multiple of `10 ^ power` in the interval, the nearest to the value and of two the greater. -/
def Interval.hit? (i : Interval) (power : Int) : Option Nat :=
  let up := if 0 ≤ power then pow10 power.toNat else 1
  let down := if 0 ≤ power then 1 else pow10 (-power).toNat
  let place (n : Nat) : Nat := n * up * i.denominator
  let inside (n : Nat) : Bool :=
    if i.closed then i.low * down ≤ place n && place n ≤ i.high * down
    else i.low * down < place n && place n < i.high * down
  let below := i.value * down / (up * i.denominator)
  let above := below + 1
  match 0 < below && inside below, inside above with
  | true, true =>
    if i.value * down - place below < place above - i.value * down then some below else some above
  | true, false => some below
  | false, true => some above
  | false, false => none

/-- The coarsest decimal grid that hits the interval, among `fuel` grids from `power` down. -/
def Interval.shortest (i : Interval) : Nat → Int → Nat × Int
  | 0, power => (i.value / i.denominator, power)
  | fuel + 1, power =>
    match i.hit? power with
    | some n => (n, power)
    | none => shortest i fuel (power - 1)

/-- The digits of `n * 10 ^ power` around a decimal point, with at least one digit behind it. -/
def positional (n : Nat) (power : Int) : String :=
  if 0 ≤ power then toString (n * pow10 power.toNat) ++ ".0"
  else
    let places := (-power).toNat
    let fraction := Nat.toDigits 10 (n % pow10 places)
    toString (n / pow10 places) ++ "." ++
      String.ofList (List.replicate (places - fraction.length) '0' ++ fraction)

/-- The shortest decimal form. -/
def text : Binary64 → String
  | .nan => "NaN"
  | .infinite negative => (if negative then "-" else "") ++ "inf"
  | .finite negative significand exponent =>
    let digits :=
      if significand = 0 then "0.0"
      else
        let (n, power) := (interval significand exponent).shortest 700 310
        positional n power
    (if negative then "-" else "") ++ digits

end Binary64

end Almanac.Toml
