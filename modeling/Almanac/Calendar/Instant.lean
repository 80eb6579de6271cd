import Almanac.Calendar.Weekday
import Almanac.Calendar.YearDay

/-!
# Almanac.Calendar.Instant

Points in time: whole seconds since 1970-01-01T00:00:00Z, rounded down, and the nanoseconds after
them.  Both bounds are part of the type, so each point has exactly one representation and the
lexicographic order of the two fields is the order of time.

A civil time is an instant broken down into date, time of day and weekday, in UTC.
-/

namespace Almanac

/-- Seconds of a day. -/
def secsPerDay : Int := 86400

/-- Nanoseconds of a second. -/
def nanosPerSec : Nat := 1000000000

/-- A point in time. -/
structure Instant where
  secs : Int
  nanos : Nat
  secs_fits : FitsInt64 secs
  nanos_lt : nanos < nanosPerSec
deriving DecidableEq

/-- An instant broken down in UTC. -/
structure CivilTime where
  date : Date
  hour : Nat
  minute : Nat
  second : Nat
  nanosecond : Nat
  weekday : Weekday
deriving DecidableEq, Repr

namespace Instant

/-- Two instants are equal when their seconds and nanoseconds are. -/
@[ext] theorem ext {t u : Instant} (hs : t.secs = u.secs) (hn : t.nanos = u.nanos) : t = u := by
  cases t
  cases u
  simp_all

instance : Ord Instant := ⟨fun t u => (compare t.secs u.secs).then (compare t.nanos u.nanos)⟩

/-- The beginning of 1970. -/
def epoch : Instant := ⟨0, 0, by decide, by decide⟩

/-! ## constructors -/

/-- The instant at a second count that may be out of range. -/
def atSecs? (secs : Int) (nanos : Nat) (h : nanos < nanosPerSec) : Option Instant :=
  if hs : FitsInt64 secs then some ⟨secs, nanos, hs, h⟩ else none

/-- An instant comes out of `atSecs?` exactly when it has these seconds and nanoseconds. -/
theorem atSecs?_eq_some_iff {secs : Int} {nanos : Nat} {h : nanos < nanosPerSec} {t : Instant} :
    atSecs? secs nanos h = some t ↔ t.secs = secs ∧ t.nanos = nanos := by
  unfold atSecs?
  split
  · simp [Instant.ext_iff, eq_comm]
  · next hs =>
    simp only [reduceCtorEq, false_iff, not_and]
    rintro rfl
    exact absurd t.secs_fits hs

/-- Nothing comes out of `atSecs?` exactly when the seconds are out of range. -/
theorem atSecs?_eq_none_iff {secs : Int} {nanos : Nat} {h : nanos < nanosPerSec} :
    atSecs? secs nanos h = none ↔ ¬ FitsInt64 secs := by
  unfold atSecs?
  split <;> simp_all

private theorem mod_lt_nanosPerSec (n : Nat) : n % nanosPerSec < nanosPerSec :=
  Nat.mod_lt _ (by decide)

/-- Seconds and nanoseconds since the epoch; nanoseconds of a full second or more are carried. -/
def ofUnix (secs : Int) (nanos : Nat) : Except CalendarError Instant :=
  match atSecs? (secs + (nanos / nanosPerSec : Nat)) (nanos % nanosPerSec)
      (mod_lt_nanosPerSec nanos) with
  | some t => .ok t
  | none => .error (.outOfRange s!"{secs}s + {nanos}ns")

private theorem toNat_emod_lt_nanosPerSec (n : Int) :
    (n % (nanosPerSec : Nat)).toNat < nanosPerSec := by
  have h : (0 : Int) < (nanosPerSec : Nat) := by decide
  have := Int.emod_lt_of_pos n h
  have := Int.emod_nonneg n (Int.ne_of_gt h)
  omega

/-- A count of nanoseconds since the epoch; a count before it is rounded down to its second. -/
def ofUnixNanos (total : Int) : Except CalendarError Instant :=
  match atSecs? (total / (nanosPerSec : Nat)) (total % (nanosPerSec : Nat)).toNat
      (toNat_emod_lt_nanosPerSec total) with
  | some t => .ok t
  | none => .error (.outOfRange s!"{total}ns since epoch")

/-- The beginning of a date. -/
def atMidnight (d : Date) : Except CalendarError Instant := do
  let n ← d.dayNumber?
  match atSecs? (n * secsPerDay) 0 (by decide) with
  | some t => pure t
  | none => throw (.outOfRange s!"seconds at {d.text}")

/-! ## views and arithmetic -/

/-- Nanoseconds since the epoch. -/
def unixNanos (t : Instant) : Int := t.secs * (nanosPerSec : Nat) + t.nanos

/-- The instant a number of seconds later, if there is one. -/
def addSecs? (t : Instant) (secs : Int) : Option Instant :=
  atSecs? (t.secs + secs) t.nanos t.nanos_lt

/-- The day number of the instant's date. -/
def dayNumber (t : Instant) : Int := t.secs / secsPerDay

/-- The seconds since the beginning of the instant's date. -/
def secondOfDay (t : Instant) : Nat := (t.secs % secsPerDay).toNat

/-- The breakdown in UTC. -/
def civil (t : Instant) : CivilTime where
  date := Date.ofDayNumber t.dayNumber
  hour := t.secondOfDay / 3600
  minute := t.secondOfDay / 60 % 60
  second := t.secondOfDay % 60
  nanosecond := t.nanos
  weekday := Weekday.ofDayNumber t.dayNumber

/-- The ordinal day in UTC. -/
def yearDay (t : Instant) : YearDay := YearDay.ofValidDate t.civil.date

/-- The year in UTC. -/
def year (t : Instant) : Int := t.civil.date.year

end Instant

end Almanac
