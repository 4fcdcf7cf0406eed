import RStepper.Text.Lines

/-!
The lines by which the console reports calls, returns and positions, and the prompts that end a
response.
-/

namespace RStepper.Marker
open Text

def enteringMark : String := "debugging in: "
def returningMark : String := "exiting from: "

/-- The three ways to announce the current line: with a source line number, with a plain number,
and without any. -/
def sourceLineMark : String := "debug at #"
def plainLineMark : String := "Debug at "
def unnumberedMark : String := "debug: "

def tracingMark : String := "Tracing "
def entryEnd : String := " on entry"
def exitEnd : String := " on exit"

def continuationPrompt : String := "+ "
def promptStart : String := "Browse["
def promptEnd : String := "]> "

def isEntering (line : Line) : Bool :=
  startsWith enteringMark line

def isReturning (line : Line) : Bool :=
  startsWith returningMark line

def isUnnumbered (line : Line) : Bool :=
  startsWith unnumberedMark line

/-- A line that announces the current line. -/
def isCurrentLine (line : Line) : Bool :=
  startsWith sourceLineMark line || startsWith plainLineMark line || isUnnumbered line

/-- `Tracing X` and one of the two ends, with any number of blanks behind it. -/
def isTracing (ending : String) (line : Line) : Bool :=
  (stripStart tracingMark line).any fun rest =>
    ending.toList.isSuffixOf (rest.reverse.dropWhile (· == ' ')).reverse

def isTraceEntry (line : Line) : Bool :=
  isTracing entryEnd line

def isTraceExit (line : Line) : Bool :=
  isTracing exitEnd line

def endsAtBreak (text : List Char) : Bool :=
  text.getLast?.any fun c => c == '\n' || c == '\r'

/-- The text ends in the continuation prompt, at the start of a row. -/
def endsInContinuation (text : List Char) : Bool :=
  (stripEnd continuationPrompt text).any endsAtBreak

/-- The text ends in a numbered browser prompt, at the start of a row. -/
def endsInPrompt (text : List Char) : Bool :=
  (stripEnd promptEnd text).any fun numbered =>
    let stem := (numbered.reverse.dropWhile Char.isDigit).reverse
    stem.length != numbered.length && (stripEnd promptStart stem).any endsAtBreak

/-- The interpreter has said all it has to say and waits for a command. -/
def isComplete (text : List Char) : Bool :=
  endsInContinuation text || endsInPrompt text

end RStepper.Marker
