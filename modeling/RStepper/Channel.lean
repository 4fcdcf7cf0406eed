import RStepper.Failure
import RStepper.Interpreter
import RStepper.Response.Basic
import RStepper.Response.Diagnostics

/-!
The channel to the interpreter. Every operation of the debugger is a conversation over it: a
computation that sends commands one at a time, writes down what the program and the interpreter
said, and may fail. What was sent and said before a failure stays.
-/

namespace RStepper

/-- A piece of program output or of diagnostics. -/
structure Record where
  text : String
  isDiagnostic : Bool
  deriving DecidableEq, Repr, Inhabited

/-- The text with a line break at its end. -/
def Record.endedText (record : Record) : String :=
  if record.text.toList.getLast? = some '\n' then record.text else record.text ++ "\n"

/-- One thing that happened on the channel. -/
inductive Happening where
  | asked (command : String) (reply : Reply)
  | wrote (record : Record)
  deriving DecidableEq, Repr, Inhabited

def Happening.command? : Happening → Option String
  | .asked command _ => some command
  | .wrote _ => none

def Happening.record? : Happening → Option Record
  | .asked .. => none
  | .wrote record => some record

/-- The interpreter and all that happened so far, oldest first. -/
structure Channel (σ : Type) where
  interpreter : σ
  log : List Happening
  /-- The interpreter owes an answer that it will not give on its own. -/
  isStalled : Bool

namespace Channel
variable {σ : Type}

def fresh (interpreter : σ) : Channel σ :=
  ⟨interpreter, [], false⟩

def sent (channel : Channel σ) : List String :=
  channel.log.filterMap Happening.command?

def records (channel : Channel σ) : List Record :=
  channel.log.filterMap Happening.record?

def patience [Interpreter σ] (channel : Channel σ) : Nat :=
  Interpreter.patience channel.interpreter

def ask [Interpreter σ] (channel : Channel σ) (command : String) : Reply × Channel σ :=
  let answer := Interpreter.answer channel.interpreter command
  (answer.1, ⟨answer.2, channel.log ++ [.asked command answer.1],
    channel.isStalled || answer.1 == .pending⟩)

/-- Writes a record down; nothing is written for no text. -/
def write (channel : Channel σ) (record : Record) : Channel σ :=
  if record.text = "" then channel else { channel with log := channel.log ++ [.wrote record] }

/-- The command whose answer the interpreter owes. -/
def awaited? (channel : Channel σ) : Option String :=
  if channel.isStalled then channel.sent.getLast? else none

end Channel

/-- A computation over the channel. -/
abbrev Talk (σ α : Type) := ExceptT Failure (StateM (Channel σ)) α

namespace Talk
variable {σ α : Type}

def runOver (talk : Talk σ α) (channel : Channel σ) : Except Failure α × Channel σ :=
  talk.run.run channel

def emit (text : String) : Talk σ Unit :=
  modifyThe (Channel σ) (·.write ⟨text, false⟩)

/-- Writes what came on the diagnostic stream. -/
def report (diagnostics : String) : Talk σ Unit :=
  modifyThe (Channel σ) (·.write ⟨diagnostics, true⟩)

/-- Makes a response of what the interpreter said to a command. Its diagnostics are written down
before anything else, and an error among them ends the conversation whatever the response is. -/
def receive (command body diagnostics : String) : Talk σ Response :=
  let raw := command ++ "\n" ++ body
  match Response.classify raw with
  | none => throw (.incomplete command raw)
  | some response => do
    report diagnostics
    match Diagnostics.runtimeError diagnostics with
    | some line => throw (.runtime command line raw)
    | none => pure response

variable [Interpreter σ]

def execute (command : String) : Talk σ Response := do
  let channel ← getThe (Channel σ)
  let (reply, next) := channel.ask command
  set next
  match reply with
  | .said body diagnostics => receive command body diagnostics
  | .closed => throw (.channel command)
  | .pending => throw (.channel command)

/-- The failure for a response that has no place where it came. -/
def unexpected (command : String) (response : Response) (expected : List Kind) : Failure :=
  .unexpected command response.kind expected response.raw

/-- Runs one command that may be answered in some ways only. -/
def expecting (command : String) (expected : List Kind) : Talk σ Response := do
  let response ← execute command
  if response.kind ∈ expected then pure response
  else throw (unexpected command response expected)

end Talk
end RStepper
