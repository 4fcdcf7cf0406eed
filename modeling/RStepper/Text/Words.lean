/-!
Splitting a line into words as a POSIX shell does: blanks part words, single quotes keep everything,
double quotes keep all but a few escapes, a backslash takes the next character as it is or joins two
lines, and `#` at the start of a word opens a comment. Splitting fails when a quote is left open or
a backslash ends the text.
-/

namespace RStepper.Text.Words

def isGap (c : Char) : Bool :=
  c == ' ' || c == '\t' || c == '\n'

/-- Where the reader stands: between words, in a comment, or in a word under some quoting. -/
inductive Mode where
  | gap
  | comment
  | bare
  | escaped
  | single
  | double
  | doubleEscaped
  deriving DecidableEq, Repr

/-- The characters that a backslash takes the meaning from inside double quotes. -/
def escapable (c : Char) : Bool :=
  c == '$' || c == '\x60' || c == '"' || c == '\\'

/-- Reads on in a mode; `word` holds the current word's characters, last first. -/
def scan : Mode → List Char → List Char → Option (List (List Char))
  | .gap, _, [] => some []
  | .comment, _, [] => some []
  | .bare, word, [] => some [word.reverse]
  | .escaped, _, [] => none
  | .single, _, [] => none
  | .double, _, [] => none
  | .doubleEscaped, _, [] => none
  | .comment, _, c :: rest => scan (if c = '\n' then .gap else .comment) [] rest
  | .escaped, word, c :: rest => scan .bare (if c = '\n' then word else c :: word) rest
  | .single, word, c :: rest => if c = '\'' then scan .bare word rest else scan .single (c :: word) rest
  | .double, word, c :: rest =>
    if c = '"' then scan .bare word rest
    else if c = '\\' then scan .doubleEscaped word rest
    else scan .double (c :: word) rest
  | .doubleEscaped, word, c :: rest =>
    if c = '\n' then scan .double word rest
    else if escapable c then scan .double (c :: word) rest
    else scan .double (c :: '\\' :: word) rest
  | .bare, word, c :: rest =>
    if isGap c then (scan .gap [] rest).map (word.reverse :: ·)
    else if c = '"' then scan .double word rest
    else if c = '\'' then scan .single word rest
    else if c = '\\' then scan .escaped word rest
    else scan .bare (c :: word) rest
  | .gap, _, c :: rest =>
    if isGap c then scan .gap [] rest
    else if c = '#' then scan .comment [] rest
    else if c = '"' then scan .double [] rest
    else if c = '\'' then scan .single [] rest
    else if c = '\\' then scan .escaped [] rest
    else scan .bare [c] rest

/-- The words of a line, or nothing if its quoting is not closed. -/
def split? (text : String) : Option (List String) :=
  (scan .gap [] text.toList).map (·.map String.ofList)

example : split? "--in 'my data.csv' \"a\\\"b\" x#y # c" =
    some ["--in", "my data.csv", "a\"b", "x#y"] := by decide +kernel

example : split? "a '' b\\\nc" = some ["a", "", "bc"] := by decide +kernel

example : split? "'open" = none ∧ split? "open\\" = none := by decide +kernel

end RStepper.Text.Words
