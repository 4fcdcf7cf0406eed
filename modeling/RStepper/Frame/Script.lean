import RStepper.Frame.Call

/-!
The script as a frame. It gives its lines to the interpreter one statement at a time: a statement is
a line and, as long as the console asks for more, the lines behind it. Blank lines and comments
between statements are never sent, because a blank line at a browser prompt means "continue".

Lines are counted without a bound, although a line number is a number of 32 bits with a sign. So all that
is said of lines is about scripts of at most `highestLine` lines: no line has a number beyond that of the
lines (`Reads.number_le`).
-/

namespace RStepper
open Text

/-- A line of the script and its number, counted from one. -/
structure SourceLine where
  text : String
  number : Nat
  deriving DecidableEq, Repr, Inhabited

/-- A script being read: the line read last, the number of lines read, and the lines ahead. -/
structure Script where
  current : Option SourceLine
  passed : Nat
  ahead : List String
  deriving DecidableEq, Repr, Inhabited

namespace Script

def linesOf (source : String) : List String :=
  (lines source.toList).map String.ofList

def ofSource (source : String) : Script :=
  ⟨none, 0, linesOf source⟩

def next (script : Script) : Option SourceLine :=
  script.ahead.head?.map (⟨·, script.passed + 1⟩)

/-- Reads one line; behind the last one there is no current line. -/
def advance (script : Script) : Script :=
  match script.ahead with
  | [] => { script with current := none }
  | line :: rest => ⟨some ⟨line, script.passed + 1⟩, script.passed + 1, rest⟩

/-- A line that is no statement: blank, or a comment. -/
def isIgnorable (line : String) : Bool :=
  match trim line.toList with
  | [] => true
  | c :: _ => c == '#'

theorem isIgnorable_iff (line : String) :
    isIgnorable line = true ↔ trim line.toList = [] ∨ ∃ comment, trim line.toList = '#' :: comment := by
  unfold isIgnorable
  cases trim line.toList <;> simp

def skip (script : Script) : Nat → Script
  | 0 => script
  | count + 1 => script.advance.skip count

/-- Reads on to the next statement. -/
def skipIgnorable (script : Script) : Script :=
  script.skip (script.ahead.takeWhile isIgnorable).length

end Script

/-- The frame of the script: its reader, and the line of the statement it stands at or, while a call
is stepped, of the statement that made the call. -/
structure ScriptFrame where
  script : Script
  line : Option Nat
  deriving DecidableEq, Repr, Inhabited

namespace ScriptFrame

def settled (frame : ScriptFrame) : ScriptFrame :=
  let script := frame.script.skipIgnorable
  ⟨script, script.next.map SourceLine.number⟩

def ofSource (source : String) : ScriptFrame :=
  settled ⟨.ofSource source, none⟩

def isActive (frame : ScriptFrame) : Bool :=
  frame.line.isSome

def location (frame : ScriptFrame) : Location :=
  .inScript (frame.line.elim Location.noLine Int.ofNat)

def read (frame : ScriptFrame) : ScriptFrame :=
  { frame with script := frame.script.advance }

/-- The kinds of response that a line of a statement may have. -/
def statementKinds : List Kind :=
  [.quiet, .printed, .continuation, .entering]

variable {σ : Type} [Interpreter σ]

def descend : Act ScriptFrame σ Unit := do
  let callee ← Act.talk CallFrame.ofCall
  Act.modifyChange fun change => { change with entered := change.entered ++ [callee] }

def finishStatement (response : Response) : Act ScriptFrame σ Unit := do
  Act.talk (Talk.emit response.output)
  Act.talk Instrument.loadFunctions

/-- Runs a statement from its first line on, with the lines behind it at hand. The result tells
whether it entered a call. -/
def runStatement (command : String) (ahead : List String) : Act ScriptFrame σ Bool := do
  let response ← Act.talk (Talk.expecting command statementKinds)
  match response.kind with
  | .continuation =>
    Act.modifyFrame read
    match ahead with
    | [] => throw (Talk.unexpected command response [.quiet, .printed])
    | line :: rest => runStatement line rest
  | .entering =>
    descend
    return true
  | _ =>
    finishStatement response
    return false

/-- What holds of all that a line of a statement can lead to, and is passed on from act to act, holds of a statement of
any number of lines. -/
theorem runStatement_closed (holds : ∀ {α : Type}, Act ScriptFrame σ α → Prop) {allowed : String → Prop}
    (bind : ∀ {α β : Type} {act : Act ScriptFrame σ α} {next : α → Act ScriptFrame σ β},
      holds act → (∀ value, holds (next value)) → holds (act >>= next))
    (asks : ∀ command, allowed command → holds (Act.talk (Talk.expecting command statementKinds)))
    (reads : holds (Act.modifyFrame read)) (runsOut : ∀ failure, holds (throw failure : Act ScriptFrame σ Bool))
    (enters : holds descend) (finishes : ∀ response, holds (finishStatement response))
    (returns : ∀ entered : Bool, holds (pure entered)) {command : String} {ahead : List String} (first : allowed command)
    (more : ∀ line ∈ ahead, allowed line) : holds (runStatement command ahead) := by
  induction ahead generalizing command with
  | nil =>
    unfold runStatement
    refine bind (asks _ first) fun response => ?_
    split
    · exact bind reads fun _ => runsOut _
    · exact bind enters fun _ => returns true
    · exact bind (finishes response) fun _ => returns false
  | cons line rest ih =>
    unfold runStatement
    refine bind (asks _ first) fun response => ?_
    split
    · exact bind reads fun _ =>
        ih (more line List.mem_cons_self) fun other inside => more other (List.mem_cons_of_mem _ inside)
    · exact bind enters fun _ => returns true
    · exact bind (finishes response) fun _ => returns false

/-- Restores the frame to a statement's start after an act that did not enter a call. -/
def settling (act : Act ScriptFrame σ Bool) : Act ScriptFrame σ Unit :=
  .of fun scene =>
    match act.runOver scene with
    | (.ok true, later) => (.ok (), later)
    | (.ok false, later) => (.ok (), { later with frame := later.frame.settled })
    | (.error failure, later) => (.error failure, { later with frame := later.frame.settled })

/-- Runs the statement at the front of some lines; where there is none, the script has ended. -/
def runFront (script : Script) : List String → Act ScriptFrame σ Unit
  | [] => Act.modifyFrame fun _ => ⟨script.advance, none⟩
  | line :: rest => do
    Act.modifyFrame fun frame => { frame with script := script.advance }
    settling (runStatement line rest)

/-- Runs the next statement. The frame stays at a statement that entered a call until the call
returns, and moves on to the next one otherwise, also after a failure. -/
def advance : Act ScriptFrame σ Unit := do
  let frame ← Act.frame
  let script := frame.script.skipIgnorable
  runFront script script.ahead

end ScriptFrame
end RStepper
