import Almanac.Ledger.Schedule

/-!
# Almanac.Settings

Settings say where a ledger is kept and which instants it holds.  In a text they are the fields of
a table with the name `fixture`:

```
[fixture]
output = "time.txt"          # path of the file
start_unix_nanos = 12345678  # signed, 64 bits
step_secs = 86400            # signed, 64 bits
span_years = 401             # unsigned, 32 bits
```

Each field may be left out, and so may the table.  How a text is read is left open: `Settings.Format`
is any way to do it that takes no other tables and fields than these.
-/

namespace Almanac

/-- Where a ledger is kept and which instants it holds.  The path of the file is the text that was
given for it. -/
@[ext] structure Settings where
  output : String := "time.txt"
  startNanos : Int := 12345678
  stepSecs : Int := 86400
  spanYears : Nat := 401
  start_fits : FitsInt64 startNanos := by decide
  step_fits : FitsInt64 stepSecs := by decide
  span_fits : FitsNat32 spanYears := by decide

instance : DecidableEq Settings := fun _ _ => decidable_of_iff _ Settings.ext_iff.symm

namespace Settings

/-- The settings that set no field. -/
def standard : Settings := {}

/-! ## reading -/

/-- Why there are no settings. -/
inductive Fault
  /-- The file cannot be read as text. -/
  | unreadable (path : String) (cause : Failure)
  /-- The text is not TOML. -/
  | notToml
  /-- The document does not hold settings; the reason tells where. -/
  | wrongShape (reason : String)
deriving DecidableEq, Repr

/-- The wording of a fault, with its cause if that is a failure. -/
def Fault.trail : Fault → String
  | .unreadable path cause => s!"failed to read config file: {path}: {cause.message}"
  | .notToml => "failed to parse TOML config"
  | .wrongShape _ => "failed to parse TOML config"

/-- The name of the table. -/
def tableName : String := "fixture"

/-- The names of its fields. -/
def fieldNames : List String := ["output", "start_unix_nanos", "step_secs", "span_years"]

/-- Whether a text can stand for a name without quotation marks. -/
def isBareKey (key : String) : Bool :=
  !key.isEmpty && key.toList.all fun c => c.isAlphanum || c == '-' || c == '_'

/-- A way to read settings in a text.  Fields and tables that are left out have their defaults, and
unknown ones are refused. -/
class Format where
  /-- The settings in a text. -/
  parse : String → Except Fault Settings
  parse_empty : parse "" = .ok standard
  parse_unknown_table : ∀ {key}, isBareKey key → key ≠ tableName →
    ∃ fault, parse ("[" ++ key ++ "]\n") = .error fault
  parse_unknown_field : ∀ {key}, isBareKey key → key ∉ fieldNames →
    ∃ fault, parse ("[" ++ tableName ++ "]\n" ++ key ++ " = 0\n") = .error fault

export Format (parse)

/-! ## the schedule -/

/-- The schedule that the settings describe, which may have no entries. -/
def schedule (s : Settings) : Schedule where
  startNanos := s.startNanos
  stepSecs := s.stepSecs
  spanYears := s.spanYears
  start_fits := s.start_fits.fitsInt128
  step_fits := s.step_fits
  span_fits := s.span_fits

/-- The schedule that the settings describe, if it passes its check. -/
def checkedSchedule (s : Settings) : Except LedgerError Schedule := do
  s.schedule.check
  pure s.schedule

/-- The error of settings whose schedule does not pass its check. -/
def scheduleTrail (e : LedgerError) : String := s!"invalid [fixture] configuration: {e.trail}"

end Settings

end Almanac
