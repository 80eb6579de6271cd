/-!
# Almanac.Text.Shape

The structured form of a value, as diagnostics show it: a word, a name with arguments, or a name
with labelled fields.  It is written on one line,

```
Outer(Inner { day: 29, month: 2 })
```

or spread out, where every argument and field stands on a line of its own, four columns further
in and followed by a comma.
-/

namespace Almanac

/-- A value as diagnostics show it.  `word` is text that is printed as it stands. -/
inductive Shape
  | word (text : String)
  | tuple (name : String) (arguments : List Shape)
  | fields (name : String) (labelled : List (String × Shape))

namespace Shape

mutual

/-- The form on one line. -/
def inline : Shape → String
  | .word text => text
  | .tuple name arguments => name ++ "(" ++ ", ".intercalate (inlineAll arguments) ++ ")"
  | .fields name labelled =>
    name ++ " \x7b " ++ ", ".intercalate (inlineFields labelled) ++ " \x7d"

/-- The arguments of a tuple, each on one line. -/
def inlineAll : List Shape → List String
  | [] => []
  | s :: rest => s.inline :: inlineAll rest

/-- The labelled fields, each as `label: value`. -/
def inlineFields : List (String × Shape) → List String
  | [] => []
  | (label, s) :: rest => (label ++ ": " ++ s.inline) :: inlineFields rest

end

/-- The blanks in front of a line at nesting depth `depth`. -/
def margin (depth : Nat) : String := "".pushn ' ' (4 * depth)

mutual

/-- The spread-out form of a value that begins at nesting depth `depth`. -/
def spreadAt (depth : Nat) : Shape → String
  | .word text => text
  | .tuple name arguments =>
    name ++ "(\n" ++ spreadAll (depth + 1) arguments ++ margin depth ++ ")"
  | .fields name labelled =>
    name ++ " \x7b\n" ++ spreadFields (depth + 1) labelled ++ margin depth ++ "\x7d"

/-- The arguments of a tuple, one a line. -/
def spreadAll (depth : Nat) : List Shape → String
  | [] => ""
  | s :: rest => margin depth ++ s.spreadAt depth ++ ",\n" ++ spreadAll depth rest

/-- The labelled fields, one a line. -/
def spreadFields (depth : Nat) : List (String × Shape) → String
  | [] => ""
  | (label, s) :: rest =>
    margin depth ++ label ++ ": " ++ s.spreadAt depth ++ ",\n" ++ spreadFields depth rest

end

/-- The spread-out form. -/
def spread (s : Shape) : String := s.spreadAt 0

/-- An integer as a word. -/
def int (n : Int) : Shape := .word (toString n)

/-- A natural number as a word. -/
def nat (n : Nat) : Shape := .word (toString n)

end Shape

end Almanac
