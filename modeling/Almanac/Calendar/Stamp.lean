import Almanac.Calendar.Instant

/-!
# Almanac.Calendar.Stamp

The RFC 3339 form of an instant in UTC, such as `2006-01-02T15:04:05.25Z`:

1. the year in at least four digits, after a `-` if it is negative;
2. month, day, hour, minute and second in two digits each;
3. a point and the fraction of the second without trailing zeros, unless the fraction is zero;
4. the letter `Z`.
-/

namespace Almanac.Instant

/-- The year in at least four digits, with its sign. -/
def yearChars (year : Int) : List Char :=
  (if year < 0 then ['-'] else []) ++ Decimal.padded 4 year.natAbs

/-- Takes zeros off the end of a number in a field: the width that is left, and the number. -/
def shortened : Nat → Nat → Nat × Nat
  | 0, n => (0, n)
  | width + 1, n => if n % 10 = 0 then shortened width (n / 10) else (width + 1, n)

/-- The point and the fraction, or nothing for a whole second. -/
def fractionChars (nanos : Nat) : List Char :=
  if nanos = 0 then []
  else
    let (width, fraction) := shortened 9 nanos
    '.' :: Decimal.padded width fraction

/-- The characters of the date and time of a civil time. -/
def civilChars (c : CivilTime) : List Char :=
  yearChars c.date.year ++ '-' :: Decimal.padded 2 c.date.month ++ '-' ::
    Decimal.padded 2 c.date.day ++ 'T' :: Decimal.padded 2 c.hour ++ ':' ::
    Decimal.padded 2 c.minute ++ ':' :: Decimal.padded 2 c.second

/-- The characters of the RFC 3339 form. -/
def stampChars (t : Instant) : List Char :=
  civilChars t.civil ++ fractionChars t.nanos ++ ['Z']

/-- The RFC 3339 form. -/
def stamp (t : Instant) : String := String.ofList t.stampChars

end Almanac.Instant
