import RStepper.Console.Command
import RStepper.Text.ByteLine
import RStepper.Worker

/-!
The console of a session: it tells the user about every pause, takes commands one line at a time,
and goes on until the session is over, the user quits or the input ends.
-/

namespace RStepper.Console
open Text

/-- A piece of what the console and the program show. -/
inductive Utterance where
  | console (text : String)
  | program (record : Record)
  deriving DecidableEq, Repr

def Utterance.console? : Utterance → Option String
  | .console text => some text
  | .program _ => none

/-- How a dialogue comes to its end. -/
inductive Outcome where
  /-- The session is over, or the user left it. -/
  | finished
  /-- The interpreter owes an answer that it does not give. -/
  | stalled
  | fault (fault : StreamFault)
  deriving DecidableEq, Repr

/-- A dialogue in progress. -/
structure Dialogue (σ : Type) where
  worker : Worker σ
  breakpoints : Breakpoints
  /-- The worker's reports that have not been looked at. -/
  unread : List Event
  /-- The worker takes requests. -/
  isOpen : Bool
  /-- How many more lines are read from the end of the worker until it takes no more requests. -/
  lag : Nat
  /-- The lines of the script, for the display. -/
  listing : List String
  /-- The frames of the last pause, innermost first. -/
  frames : List Location
  /-- The number of inspections so far. -/
  inspections : Nat
  /-- All that was shown, in order. -/
  shown : List Utterance

def menu : String :=
  "Commands: (c)ontinue, (n)ext, (s)tepIn, (o)ut, (r)un <line>, (b)reak <line> [cond], " ++
    "(d)elete <line>, (p)rint <expr>, (v)ars, (w)here, (q)uit\n> "

/-- A text with blanks in front, at least `width` characters wide. -/
def alignRight (width : Nat) (text : String) : String :=
  "".pushn ' ' (width - text.length) ++ text

def finishedMessage : String := "Script finished"

def failedMessage (message : String) : String :=
  "Debug session failed: " ++ message

def errorMessage (message : String) : String :=
  "Error: " ++ message

namespace Dialogue
variable {σ : Type}

/-- A dialogue with a worker that has just begun. When it ends it takes no more requests at once. -/
def start (debuggee : Debuggee σ) (breakpoints : Breakpoints) (listing : List String) : Dialogue σ :=
  let (events, worker) := Worker.start debuggee
  ⟨worker, breakpoints, events, true, 0, listing, [], 0, []⟩

/-- What the worker does while a line of input is read: one that has ended closes, now or later. -/
def elapse (dialogue : Dialogue σ) : Dialogue σ :=
  if dialogue.worker.hasEnded then
    { dialogue with isOpen := dialogue.isOpen && decide (0 < dialogue.lag), lag := dialogue.lag - 1 }
  else dialogue

def tell (dialogue : Dialogue σ) (text : String) : Dialogue σ :=
  { dialogue with shown := dialogue.shown ++ [.console text] }

def tellLine (dialogue : Dialogue σ) (text : String) : Dialogue σ :=
  dialogue.tell (text ++ "\n")

def tellLines (dialogue : Dialogue σ) (texts : List String) : Dialogue σ :=
  texts.foldl tellLine dialogue

def text (dialogue : Dialogue σ) : String :=
  String.join (dialogue.shown.filterMap Utterance.console?)

/-- The line of the script at a position, with its number. -/
def sourceLine? (dialogue : Dialogue σ) (location : Location) : Option String :=
  if location.isInScript ∧ 0 < location.line then
    dialogue.listing[(location.line - 1).toNat]?.map fun text =>
      alignRight 4 (toString location.line) ++ " | " ++ text
  else none

def tellStop (dialogue : Dialogue σ) (stop : Stop) : Dialogue σ :=
  let told := dialogue.tellLines
    ((stop.message.map errorMessage).toList ++
      ["Stopped (" ++ stop.reason.label ++ ") at " ++ stop.location.render] ++
      (dialogue.sourceLine? stop.location).toList)
  { told with frames := stop.frames }

/-- What the console heard of the worker. -/
inductive Heard where
  /-- What it was listening for: the next pause, or the answer it asked for. -/
  | news
  | sessionEnd
  /-- Nothing: the worker has no more to say. -/
  | silence
  deriving DecidableEq, Repr

/-- Listens for the next pause. Answers that nobody asked for are passed over. -/
def hearStop (dialogue : Dialogue σ) : List Event → Heard × Dialogue σ
  | [] => (.silence, { dialogue with unread := [] })
  | .stopped stop :: later => (.news, { dialogue.tellStop stop with unread := later })
  | .terminated :: later =>
    (.sessionEnd, { dialogue.tellLine finishedMessage with unread := later })
  | .failed message :: later =>
    (.sessionEnd, { dialogue.tellLine (failedMessage message) with unread := later })
  | .evaluated .. :: later => dialogue.hearStop later
  | .variables .. :: later => dialogue.hearStop later

def variableLine (entry : Inspect.Variable) : String :=
  entry.name ++ " = " ++ entry.value

def answerLines (render : α → List String) : Except String α → List String
  | .ok value => render value
  | .error message => [errorMessage message]

/-- Listens for the answer to an inspection. -/
def hearAnswer (dialogue : Dialogue σ) (id : Nat) : List Event → Heard × Dialogue σ
  | [] => (.silence, { dialogue with unread := [] })
  | .evaluated answered answer :: later =>
    if answered = id then
      (.news, { dialogue.tellLines (answerLines (fun value => [value]) answer) with unread := later })
    else dialogue.hearAnswer id later
  | .variables answered answer :: later =>
    if answered = id then
      (.news,
        { dialogue.tellLines (answerLines (·.map variableLine) answer) with unread := later })
    else dialogue.hearAnswer id later
  | .terminated :: later =>
    (.sessionEnd, { dialogue.tellLine finishedMessage with unread := later })
  | .failed message :: later =>
    (.sessionEnd, { dialogue.tellLine (failedMessage message) with unread := later })
  | .stopped _ :: later => dialogue.hearAnswer id later

/-- What follows from what was heard: nothing if the dialogue goes on, and else its outcome. -/
def outcome? (heard : Heard) (dialogue : Dialogue σ) : Option Outcome :=
  match heard with
  | .news => none
  | .sessionEnd => some .finished
  | .silence => if dialogue.worker.hasEnded then some .finished else some .stalled

variable [Interpreter σ]

/-- Hands a request to the worker and lets it work; what the program writes meanwhile is shown. -/
def submit (dialogue : Dialogue σ) (request : Request) : Dialogue σ :=
  let turn := dialogue.worker.perform false dialogue.breakpoints request
  let before := dialogue.worker.debuggee.channel.records.length
  let written := turn.worker.debuggee.channel.records.drop before
  { dialogue with
    worker := turn.worker
    breakpoints := turn.breakpoints
    unread := dialogue.unread ++ turn.events
    shown := dialogue.shown ++ written.map .program }

def awaitStop (dialogue : Dialogue σ) : Option Outcome × Dialogue σ :=
  let (heard, told) := dialogue.hearStop dialogue.unread
  (outcome? heard told, told)

/-- A run to the next pause. If the worker takes no request, the dialogue is over. -/
def run (dialogue : Dialogue σ) (request : Request) : Option Outcome × Dialogue σ :=
  if dialogue.isOpen then (dialogue.submit request).awaitStop else (some .finished, dialogue)

/-- An inspection and its answer. -/
def inspect (dialogue : Dialogue σ) (request : Nat → Request) : Option Outcome × Dialogue σ :=
  let id := dialogue.inspections + 1
  let counted := { dialogue with inspections := id }
  if counted.isOpen then
    let asked := counted.submit (request id)
    let (heard, told) := asked.hearAnswer id asked.unread
    (outcome? heard told, told)
  else (some .finished, counted)

def quit (dialogue : Dialogue σ) : Option Outcome × Dialogue σ :=
  (some .finished, dialogue.submit .stop)

/-- The lines that show the frames of the last pause. -/
def frameLines (frames : List Location) : List String :=
  frames.zipIdx.map fun (frame, index) => "  #" ++ toString index ++ ": " ++ frame.render

/-- Does what a command asks for. The result is the outcome of the dialogue if it is over. -/
def obey (dialogue : Dialogue σ) (command : Command) : Option Outcome × Dialogue σ :=
  match command with
  | .run mode => dialogue.run (.run mode)
  | .runTo line => dialogue.run (.runTo (.inScript line))
  | .setBreakpoint line none =>
    (none, { dialogue.tellLine ("Breakpoint set at line " ++ toString line) with
      breakpoints := dialogue.breakpoints.add (.inScript line) })
  | .setBreakpoint line (some condition) =>
    (none, { dialogue.tellLine
        ("Breakpoint set at line " ++ toString line ++ " if " ++ condition) with
      breakpoints := dialogue.breakpoints.addConditional (.inScript line) condition })
  | .removeBreakpoint line =>
    (none, { dialogue.tellLine ("Breakpoint removed from line " ++ toString line) with
      breakpoints := dialogue.breakpoints.remove (.inScript line) })
  | .print expression => dialogue.inspect (.evaluate · expression)
  | .variables => dialogue.inspect .variables
  | .frames => (none, dialogue.tellLines (frameLines dialogue.frames))
  | .quit => dialogue.quit

def take (dialogue : Dialogue σ) (line : List Char) : Option Outcome × Dialogue σ :=
  let asked := String.ofList (trim line)
  match Command.parse? asked with
  | some command => dialogue.obey command
  | none => (none, dialogue.tellLine ("Unknown command: " ++ asked))

/-- Takes one line of input as it was read. -/
def takeBytes (dialogue : Dialogue σ) (line : List UInt8) : Option Outcome × Dialogue σ :=
  match readByteLine line with
  | .error fault => (some (.fault fault), dialogue)
  | .ok text => dialogue.elapse.take text

/-- Asks for commands until the dialogue is over. The end of the input leaves the session. -/
def converse (dialogue : Dialogue σ) : List (List UInt8) → Outcome × Dialogue σ
  | [] => (.finished, (dialogue.tell menu).submit .stop)
  | line :: later =>
    match (dialogue.tell menu).takeBytes line with
    | (some outcome, told) => (outcome, told)
    | (none, told) => told.converse later

/-- The whole dialogue: the first pause, and then command by command. -/
def hold (dialogue : Dialogue σ) (input : List UInt8) : Outcome × Dialogue σ :=
  match dialogue.awaitStop with
  | (some outcome, told) => (outcome, told)
  | (none, told) => told.converse (byteLines input)

end Dialogue
end RStepper.Console
