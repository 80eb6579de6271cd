import Almanac.Text.Quoted
import Almanac.Frontend.Toml.Binary64

/-!
# Almanac.Frontend.Toml.Value

The values of a TOML document.  A table is a list of keys and values in the order in which the
keys first occur; how it was written down decides what may still be added to it.
-/

namespace Almanac.Toml

/-- How a table came into a document. -/
inductive Origin
  /-- In braces: nothing may be added to it. -/
  | braces
  /-- By a header of its own: only headers may add tables to it. -/
  | header
  /-- By the header of a table inside of it: it may still get a header of its own. -/
  | passed
  /-- By a key with dots: further keys with dots may add to it. -/
  | dotted
deriving DecidableEq, Repr

/-- A TOML value. -/
inductive Value
  | string (text : String)
  | integer (n : Int)
  | float (x : Binary64)
  | boolean (b : Bool)
  | dateTime
  | array (items : List Value)
  | table (origin : Origin) (entries : List (String × Value))
  /-- The tables below headers in double brackets. -/
  | tables (items : List (List (String × Value)))

/-- Keys and values, in order. -/
abbrev Entries := List (String × Value)

/-- What kind of value this is, and which one if that is short to say. -/
def Value.description : Value → String
  | .string text => s!"string {Text.quoted text}"
  | .integer n => s!"integer `{n}`"
  | .float x => s!"floating point `{x.text}`"
  | .boolean b => s!"boolean `{b}`"
  | .dateTime => "map"
  | .array _ => "sequence"
  | .table .. => "map"
  | .tables _ => "sequence"

end Almanac.Toml
