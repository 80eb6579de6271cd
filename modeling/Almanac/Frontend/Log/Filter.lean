import Almanac.Log

/-!
# Almanac.Frontend.Log.Filter

Filters that choose which events are shown.  A filter gives levels to selectors.  A selector may
name the beginning of a target, a span, and a field.

1. A selector with a span fits this span and everything inside of it, whatever its target: an event
   is shown if its level is not more detailed than that of any selector that fits its span.
2. A selector without a span fits events with its target and field.  Of those that fit, the most
   specific one counts, and the event is shown if its level is not more detailed.
3. Shown events are marked with the name of their span if a selector of the first kind fits it, or
   if the one of the second kind that counts for the span's own target shows information.
-/

namespace Almanac.Log

/-! ## levels and events -/

namespace Level

/-- The place of a level on the scale. -/
def rank : Level → Nat
  | .off => 0
  | .error => 1
  | .warn => 2
  | .info => 3
  | .debug => 4
  | .trace => 5

/-- The name of a level in the log. -/
def name : Level → String
  | .off => "OFF"
  | .error => "ERROR"
  | .warn => "WARN"
  | .info => "INFO"
  | .debug => "DEBUG"
  | .trace => "TRACE"

end Level

/-- The names of an event's fields; its message is one of them. -/
def Event.keys (e : Event) : List String := "message" :: e.fields.map Prod.fst

/-! ## selectors -/

/-- Asks for a field, and possibly for a value of it. -/
structure Demand where
  name : String
  value : Option String := none
deriving DecidableEq, Repr

/-- What a level is given to; the empty target begins all of them. -/
structure Selector where
  target : String := ""
  span : Option String := none
  demand : Option Demand := none
deriving DecidableEq, Repr

namespace Selector

/-- Whether a target begins with that of a selector. -/
def reaches (s : Selector) (target : String) : Bool := s.target.toList.isPrefixOf target.toList

/-- Whether a selector is about spans and what is inside of them.  The value of a field is one that
a span has, so a selector that asks for it is among them. -/
def isForSpans (s : Selector) : Bool := s.span.isSome || s.demand.any (·.value.isSome)

/-- Whether a selector fits a span and everything inside of it.  Spans have no fields, so a selector
that asks for one fits none of them. -/
def covers (s : Selector) (span : Span) : Bool :=
  s.span = some span.name && s.demand.isNone && s.reaches span.target

/-- Whether a selector fits an event by itself. -/
def fits (s : Selector) (e : Event) : Bool :=
  !s.isForSpans && s.reaches e.target && s.demand.all (·.name ∈ e.keys)

/-- Whether a selector that is not about spans has a say in the mark of one; it may have it whatever
field it asks for. -/
def marks (s : Selector) (span : Span) : Bool := !s.isForSpans && s.reaches span.target

/-- Whether a selector is more specific than another one: its target is longer, or else it asks for
a field and the other one does not, or else the field that it asks for comes later by name. -/
def outranks (s t : Selector) : Bool :=
  if s.target.length ≠ t.target.length then t.target.length < s.target.length
  else
    match s.demand, t.demand with
    | some d, some e => e.name < d.name
    | some _, none => true
    | none, _ => false

end Selector

/-! ## filters -/

/-- Gives a level to a selector. -/
structure Directive where
  selector : Selector
  level : Level
deriving DecidableEq, Repr

/-- What is shown of a log: at most one level for each selector. -/
structure Filter where
  directives : List Directive
  distinct : directives.Pairwise (·.selector ≠ ·.selector)
deriving DecidableEq, Repr

namespace Filter

/-- The filter that shows nothing. -/
def silent : Filter := ⟨[], .nil⟩

/-- Gives a level to a selector, in place of the one that it had. -/
def put (f : Filter) (d : Directive) : Filter where
  directives := d :: f.directives.filter (·.selector ≠ d.selector)
  distinct := by
    refine List.pairwise_cons.2 ⟨fun e he => ?_, f.distinct.filter _⟩
    exact fun h => by simp [h] at he

/-- The filter with a list of directives, of which later ones replace earlier ones. -/
def ofDirectives (ds : List Directive) : Filter := ds.foldl put silent

/-- The filter that shows errors only. -/
def errorsOnly : Filter := ofDirectives [⟨{}, .error⟩]

/-- The directive that counts among those that fit: the one that no other outranks. -/
def decisive? (f : Filter) (fits : Selector → Bool) : Option Directive :=
  let fitting := f.directives.filter (fits ·.selector)
  fitting.find? fun d => fitting.all fun e => !e.selector.outranks d.selector

/-- Whether a filter shows an event of a span. -/
def shows (f : Filter) (span : Span) (e : Event) : Bool :=
  f.directives.any (fun d => d.selector.covers span && e.level.rank ≤ d.level.rank) ||
    (f.decisive? (·.fits e)).any fun d => e.level.rank ≤ d.level.rank

/-- Whether a filter marks the events of a span with its name. -/
def marks (f : Filter) (span : Span) : Bool :=
  f.directives.any (·.selector.covers span) ||
    (f.decisive? (·.marks span)).any fun d => Level.info.rank ≤ d.level.rank

end Filter

/-! ## lines -/

/-- The line of an event. -/
def Event.line (e : Event) (f : Filter) (span : Span) : String :=
  let within := if f.marks span then s!"{span.name}: " else ""
  let fields := e.fields.map fun (key, value) => s!" {key}={value}"
  s!"{e.level.name} {within}{e.target}: {e.message}{String.join fields}"

/-- The line of an event, if a filter shows it. -/
def Filter.line? (f : Filter) (span : Span) (e : Event) : Option String :=
  if f.shows span e then some (e.line f span) else none

end Almanac.Log
