import RStepper.RunMode
import RStepper.Text.Blank
import RStepper.Text.Number

/-!
The commands a user types at the console. A command is a word and what it is about; blanks around
both do not matter, and an empty line steps to the next position, as at a browser prompt.
-/

namespace RStepper.Console
open Text

/-- What a user asks for. Lines are lines of the script. -/
inductive Command where
  | run (mode : RunMode)
  | runTo (line : Int)
  | setBreakpoint (line : Int) (condition : Option String)
  | removeBreakpoint (line : Int)
  | print (expression : String)
  | variables
  | frames
  | quit
  deriving DecidableEq, Repr, Inhabited

/-- What a command word means. -/
inductive Verb where
  | run (mode : RunMode)
  | runTo
  | setBreakpoint
  | removeBreakpoint
  | print
  | variables
  | frames
  | quit
  deriving DecidableEq, Repr, Inhabited

def words : List (String × Verb) :=
  [("c", .run .resume), ("continue", .run .resume),
    ("n", .run .next), ("next", .run .next), ("stepOver", .run .next),
    ("", .run .into), ("s", .run .into), ("stepIn", .run .into), ("stepInto", .run .into),
    ("o", .run .out), ("out", .run .out), ("stepOut", .run .out),
    ("r", .runTo), ("run", .runTo),
    ("b", .setBreakpoint), ("break", .setBreakpoint),
    ("d", .removeBreakpoint), ("delete", .removeBreakpoint),
    ("p", .print), ("print", .print),
    ("v", .variables), ("vars", .variables),
    ("w", .frames), ("where", .frames),
    ("q", .quit), ("quit", .quit)]

def verb? (word : List Char) : Option Verb :=
  (words.find? (·.1.toList == word)).map (·.2)

def nonEmpty? (text : List Char) : Option String :=
  if text.isEmpty then none else some (String.ofList text)

/-- A verb with what it is about: the commands on lines need a line number, and printing needs an
expression. What stands behind a line number is a condition to `setBreakpoint` only. -/
def Verb.command? (verb : Verb) (argument : List Char) : Option Command :=
  let (first, tail) := splitWord argument
  match verb with
  | .run mode => some (.run mode)
  | .runTo => (readLine? first).map .runTo
  | .setBreakpoint => (readLine? first).map fun line => .setBreakpoint line (nonEmpty? (trim tail))
  | .removeBreakpoint => (readLine? first).map .removeBreakpoint
  | .print => (nonEmpty? argument).map .print
  | .variables => some .variables
  | .frames => some .frames
  | .quit => some .quit

/-- The command that a line asks for, if it is one. -/
def Command.parse? (line : String) : Option Command :=
  let (word, behind) := splitWord (trim line.toList)
  (verb? word).bind (·.command? (trim behind))

example : Command.parse? " b 12  x > 1 " = some (.setBreakpoint 12 (some "x > 1")) := by
  decide +kernel

example : Command.parse? "p  sum(1, 2)" = some (.print "sum(1, 2)") := by decide +kernel

example : Command.parse? " " = some (.run .into) ∧ Command.parse? "p " = none ∧
    Command.parse? "b x" = none ∧ Command.parse? "steps" = none := by decide +kernel

end RStepper.Console
