/-!
# Almanac.Log

Events that a program tells of while it works.  All of them happen inside of a span, a piece of
work with a name.

Which events are shown, and how, is left open: `Log.Format` is any way to write filters and to show
single events through them.
-/

namespace Almanac.Log

/-- How detailed events are, from none at all to the smallest steps. -/
inductive Level
  | off
  | error
  | warn
  | info
  | debug
  | trace
deriving DecidableEq, Repr

/-- Something that happened, with what there is to know about it. -/
structure Event where
  level : Level
  target : String
  message : String
  fields : List (String × String)
deriving DecidableEq, Repr

/-- A piece of work that events belong to.  It has no fields. -/
structure Span where
  name : String
  target : String
deriving DecidableEq, Repr

/-- A way to write filters and to show events. -/
class Format where
  /-- What decides which events are shown. -/
  Filter : Type
  /-- The filter that a text describes, if all of the text can be read. -/
  ofText? : String → Option Filter
  /-- The filter that those parts of a text describe that can be read. -/
  ofText : String → Filter
  /-- The line of an event of a span, if the filter shows it. -/
  line? : Filter → Span → Event → Option String

/-- The lines of the events that a filter shows. -/
def lines [Format] (f : Format.Filter) (span : Span) (events : List Event) : List String :=
  events.filterMap (Format.line? f span)

end Almanac.Log
