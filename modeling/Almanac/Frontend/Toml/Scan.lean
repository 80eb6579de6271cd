/-!
# Almanac.Frontend.Toml.Scan

Reading the parts of a TOML text that are not values: blanks, comments, ends of lines, strings
and keys.  A scanner looks at the beginning of a text and hands out what it read and the text that
follows; `none` means that the text is not TOML.
-/

namespace Almanac.Toml

/-- A reader of the beginning of a text. -/
abbrev Scan (α : Type) := List Char → Option (α × List Char)

/-! ## between values -/

/-- A blank within a line. -/
def isBlank (c : Char) : Bool := c == ' ' || c == '\t'

/-- The text without the blanks in front. -/
def skipBlanks (cs : List Char) : List Char := cs.dropWhile isBlank

/-- Any character but the control characters other than the tab. -/
def isPlain (c : Char) : Bool := c == '\t' || (' ' ≤ c && c != '\x7f')

/-- The text without a comment in front. -/
def skipComment : List Char → List Char
  | '#' :: rest => rest.dropWhile isPlain
  | cs => cs

/-- The text after a newline, which may follow a carriage return. -/
def afterNewline? : List Char → Option (List Char)
  | '\n' :: rest => some rest
  | '\r' :: '\n' :: rest => some rest
  | _ => none

/-- The text after the end of a line, which may hold blanks and a comment. -/
def afterLine? (cs : List Char) : Option (List Char) :=
  match skipComment (skipBlanks cs) with
  | [] => some []
  | rest => afterNewline? rest

/-- The text without blanks, comments and newlines in front.  `inComment` tells that a comment has
begun; one with a control character in it ends the search there, where no value begins. -/
def skipLines (inComment : Bool) : List Char → List Char
  | [] => []
  | '\n' :: rest => skipLines false rest
  | '\r' :: '\n' :: rest => skipLines false rest
  | c :: rest =>
    if inComment && isPlain c then skipLines true rest
    else if !inComment && isBlank c then skipLines false rest
    else if !inComment && c == '#' then skipLines true rest
    else c :: rest

/-! ## strings -/

/-- The number of a character as hexadecimal digits; surrogates are no characters. -/
def scalar? (digits : List Char) : Option Char := do
  let digit (c : Char) : Option Nat :=
    if c.isDigit then some (c.toNat - '0'.toNat)
    else if 'a' ≤ c ∧ c ≤ 'f' then some (c.toNat - 'a'.toNat + 10)
    else if 'A' ≤ c ∧ c ≤ 'F' then some (c.toNat - 'A'.toNat + 10)
    else none
  let n ← digits.foldlM (fun n c => do pure (16 * n + (← digit c))) 0
  if n.isValidChar then some (Char.ofNat n) else none

/-- The character for which a letter stands after a backslash. -/
def escaped? : Char → Option Char
  | 'b' => some '\x08'
  | 't' => some '\t'
  | 'n' => some '\n'
  | 'f' => some '\x0c'
  | 'r' => some '\r'
  | '"' => some '"'
  | '\\' => some '\\'
  | _ => none

/-- The number of hexadecimal digits that follow a letter after a backslash. -/
def escapeDigits : Char → Nat
  | 'u' => 4
  | 'U' => 8
  | _ => 0

/-- What stands after a backslash: one letter, or a letter and the number of a character. -/
def scanEscape : Scan Char
  | [] => none
  | c :: rest =>
    if escapeDigits c = 0 then (escaped? c).map (·, rest)
    else if rest.length < escapeDigits c then none
    else (scalar? (rest.take (escapeDigits c))).map (·, rest.drop (escapeDigits c))

/-- The rest of a string between quotation marks, behind the reversed characters `done`.  Each
round reads at least one character, so the length of the text bounds the rounds. -/
def scanBasic (done : List Char) : Nat → Scan String
  | 0, _ => none
  | _, [] => none
  | rounds + 1, c :: rest =>
    if c = '"' then some (.ofList done.reverse, rest)
    else if c = '\\' then do
      let (e, rest) ← scanEscape rest
      scanBasic (e :: done) rounds rest
    else if isPlain c then scanBasic (c :: done) rounds rest
    else none

/-- The rest of a string between apostrophes, in which nothing is escaped. -/
def scanLiteral (done : List Char) : Scan String
  | [] => none
  | c :: rest =>
    if c = '\'' then some (.ofList done.reverse, rest)
    else if isPlain c then scanLiteral (c :: done) rest
    else none

/-- The end of a string in triple quotes, at its first quote: up to two more quotes than three
belong to the string. -/
def closing? (quote : Char) (cs : List Char) : Option (Nat × List Char) :=
  let run := (cs.takeWhile (· == quote)).length
  if run < 3 then none else some (min run 5 - 3, cs.drop (min run 5))

/-- The text after a line break that a backslash joins, without all blanks and newlines. -/
def afterJoin? (cs : List Char) : Option (List Char) :=
  let rec skip : List Char → List Char
    | [] => []
    | '\n' :: rest => skip rest
    | '\r' :: '\n' :: rest => skip rest
    | c :: rest => if isBlank c then skip rest else c :: rest
  (afterNewline? (skipBlanks cs)).map skip

/-- The rest of a string between triple quotes, which may span lines; a line ends with a newline in
it, however the text writes that.  With quotation marks, escapes are read and a backslash at the
end of a line joins it to the next. -/
def scanLong (quote : Char) (done : List Char) : Nat → Scan String
  | 0, _ => none
  | _, [] => none
  | rounds + 1, c :: rest =>
    match closing? quote (c :: rest), afterNewline? (c :: rest) with
    | some (more, after), _ => some (.ofList (done.reverse ++ List.replicate more quote), after)
    | none, some after => scanLong quote ('\n' :: done) rounds after
    | none, none =>
      if c = '\\' ∧ quote = '"' then
        match afterJoin? rest with
        | some after => scanLong quote done rounds after
        | none => do
          let (e, after) ← scanEscape rest
          scanLong quote (e :: done) rounds after
      else if isPlain c then scanLong quote (c :: done) rounds rest
      else none

/-- A string on one line. -/
def scanShortString : Scan String
  | '"' :: rest => scanBasic [] (rest.length + 1) rest
  | '\'' :: rest => scanLiteral [] rest
  | _ => none

/-- The text without one newline in front, which may stand after the opening triple quotes. -/
def skipNewline (cs : List Char) : List Char := (afterNewline? cs).getD cs

/-- A string. -/
def scanString : Scan String
  | '"' :: '"' :: '"' :: rest => scanLong '"' [] (rest.length + 1) (skipNewline rest)
  | '\'' :: '\'' :: '\'' :: rest => scanLong '\'' [] (rest.length + 1) (skipNewline rest)
  | cs => scanShortString cs

/-! ## keys -/

/-- A character of a key without quotes. -/
def isKeyChar (c : Char) : Bool := c.isAlphanum || c == '-' || c == '_'

/-- One part of a key: a string on one line, or a word. -/
def scanKeyPart : Scan String
  | '"' :: rest => scanShortString ('"' :: rest)
  | '\'' :: rest => scanShortString ('\'' :: rest)
  | cs =>
    match cs.takeWhile isKeyChar with
    | [] => none
    | word => some (.ofList word, cs.dropWhile isKeyChar)

/-- How deep values, and how long keys, may be nested. -/
def maxNesting : Nat := 79

/-- A key with dots, of at most `parts` parts: the parts before the last, and the last.  Blanks may
stand around each part. -/
def scanDotted : Nat → Scan (List String × String)
  | 0, _ => none
  | parts + 1, cs => do
    let (part, rest) ← scanKeyPart (skipBlanks cs)
    match skipBlanks rest with
    | '.' :: rest => do
      let ((path, last), rest) ← scanDotted parts rest
      pure ((part :: path, last), rest)
    | rest => pure (([], part), rest)

/-- A key. -/
def scanKey : Scan (List String × String) := scanDotted maxNesting

/-! ### words -/

section Words

variable {c : Char} {cs rest : List Char}

theorem skipBlanks_cons (h : isBlank c = false) (rest : List Char) :
    skipBlanks (c :: rest) = c :: rest := by
  rw [skipBlanks, List.dropWhile_cons_of_neg (by simp [h])]

theorem isBlank_of_isKeyChar (h : isKeyChar c) : isBlank c = false := by
  simp only [isBlank, Bool.or_eq_false_iff, beq_eq_false_iff_ne]
  constructor <;> (rintro rfl; exact absurd h (by decide))

/-- A word begins with a character of a word. -/
theorem cons_ne_of_isKeyChar {d : Char} (h : isKeyChar c) (hd : isKeyChar d = false)
    (cs ds : List Char) : c :: cs ≠ d :: ds := by
  intro heq
  rw [(List.cons.inj heq).1, hd] at h
  contradiction

/-- A word is a part of a key, up to the first character that cannot be in it. -/
theorem scanKeyPart_word (hword : (c :: cs).all isKeyChar)
    (hrest : rest.takeWhile isKeyChar = []) :
    scanKeyPart (c :: (cs ++ rest)) = some (String.ofList (c :: cs), rest) := by
  have hall : ∀ a ∈ c :: cs, isKeyChar a := List.all_eq_true.1 hword
  have hc : isKeyChar c := hall c List.mem_cons_self
  have hdrop : rest.dropWhile isKeyChar = rest := by
    rw [← List.nil_append (rest.dropWhile isKeyChar), ← hrest, List.takeWhile_append_dropWhile]
  rw [scanKeyPart, ← List.cons_append, List.takeWhile_append_of_pos hall,
    List.dropWhile_append_of_pos hall, hrest, hdrop, List.append_nil]
  -- Neither quotation mark is a character of a word.
  · intro _
    exact cons_ne_of_isKeyChar hc (by decide) _ _
  · intro _
    exact cons_ne_of_isKeyChar hc (by decide) _ _

/-- A word in front of anything but a dot is a whole key. -/
theorem scanKey_word (rest : List Char) (hword : (c :: cs).all isKeyChar)
    (hrest : rest.takeWhile isKeyChar = []) (hdot : (skipBlanks rest).head? ≠ some '.') :
    scanKey (c :: (cs ++ rest)) = some (([], String.ofList (c :: cs)), skipBlanks rest) := by
  have hc : isKeyChar c := List.all_eq_true.1 hword c List.mem_cons_self
  rw [scanKey, maxNesting, scanDotted, skipBlanks_cons (isBlank_of_isKeyChar hc),
    scanKeyPart_word hword hrest]
  simp only [Option.bind_eq_bind, Option.bind_some]
  split
  · rename_i h
    rw [h] at hdot
    exact absurd rfl hdot
  · rfl

end Words

end Almanac.Toml
