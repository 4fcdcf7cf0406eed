import RStepper.Failure
import RStepper.Interpreter
import RStepper.Response.Marker
import RStepper.Text.ByteLine

/-!
An interpreter in a process of its own, reached through pipes. It does not echo what it is sent, so
the command is put in front of everything that is read for it. A response is complete as soon as
what was read ends in a prompt, whatever the reads it came in.
-/

namespace RStepper
open Text

/-- What a process writes when it is given some input. -/
structure Burst where
  output : List UInt8
  diagnostics : List UInt8
  deriving DecidableEq, Repr, Inhabited

/-- A process that reads commands and writes to two streams. -/
class Subprocess (π : Type) where
  feed : π → List UInt8 → Burst × π
  hasExited : π → Bool

namespace Piped

/-- The command that parks the interpreter at a browser prompt. -/
def browserCommand : String := "browser()"

/-- The most bytes that are read at once. -/
def readSize : Nat := 4096

/-- Output as it is read when all of it is there. -/
def inReads (bytes : List UInt8) : List (List UInt8) :=
  if _some : bytes = [] then [] else bytes.take readSize :: inReads (bytes.drop readSize)
termination_by bytes.length
decreasing_by
  have full := List.length_pos_iff.2 _some
  rw [List.length_drop, readSize]
  omega

/-- Takes reads as long as the text behind the echoed command is not complete: the bytes read, and
the reads that are left. -/
def collect (command : List Char) (held : List UInt8) :
    List (List UInt8) → Option (List UInt8 × List (List UInt8))
  | [] => none
  | read :: later =>
    let bytes := held ++ read
    if Marker.isComplete (command ++ '\n' :: Utf8.decodeLossy bytes) then some (bytes, later)
    else collect command bytes later

/-- The text of the response to a command, and the reads behind it. -/
def readResponse (command : String) (reads : List (List UInt8)) :
    Option (String × List (List UInt8)) :=
  (collect command.toList [] reads).map fun (bytes, later) =>
    (command ++ "\n" ++ String.ofList (Utf8.decodeLossy bytes), later)

/-- The complete lines of a diagnostic stream, each with a plain break, and the beginning of the next
one. Nothing is read any more behind a line that is not UTF-8. -/
def diagnosticLines : List (List UInt8) → List Char × Option (List UInt8)
  | [] => ([], some [])
  | line :: later =>
    if line.getLast? = some 0x0A then
      match Utf8.decode? line with
      | none => ([], none)
      | some text =>
        let (more, tail) := diagnosticLines later
        (stripBreak text ++ '\n' :: more, tail)
    else ([], some line)

end Piped

/-- A session with a process: its output that was not read, the beginning of a diagnostic line unless
that stream is broken, and how many answers the session may still take. -/
structure Piped (π : Type) where
  process : π
  unread : List UInt8
  diagnosticTail : Option (List UInt8)
  isOpen : Bool
  answersLeft : Nat

namespace Piped
variable {π : Type}

/-- Ends the process: every command from now on finds its channel closed. -/
def terminate (piped : Piped π) : Piped π :=
  { piped with isOpen := false }

def diagnose (piped : Piped π) (diagnostics : List UInt8) : List Char × Option (List UInt8) :=
  match piped.diagnosticTail with
  | none => ([], none)
  | some tail => diagnosticLines (byteLines (tail ++ diagnostics))

variable [Subprocess π]

def feed (piped : Piped π) (input : List Char) : String × Piped π :=
  let (burst, process) := Subprocess.feed piped.process (Utf8.encode input)
  let (diagnostics, diagnosticTail) := piped.diagnose burst.diagnostics
  (String.ofList diagnostics,
    { piped with process, unread := piped.unread ++ burst.output, diagnosticTail })

/-- Sends a command and reads its response. -/
def exchange (piped : Piped π) (command : String) : Reply × Piped π :=
  let (diagnostics, fed) := piped.feed (command.toList ++ ['\n'])
  match collect command.toList [] (inReads fed.unread) with
  | some (bytes, later) =>
    (.said (String.ofList (Utf8.decodeLossy bytes)) diagnostics, { fed with unread := later.flatten })
  | none => (if Subprocess.hasExited fed.process then .closed else .pending, fed)

/-- Answers a command as long as the process is there. -/
def answer (piped : Piped π) (command : String) : Reply × Piped π :=
  match piped.answersLeft with
  | 0 => (.closed, piped)
  | answersLeft + 1 =>
    if piped.isOpen && !Subprocess.hasExited piped.process then
      { piped with answersLeft }.exchange command
    else (.closed, piped)

/-- Parks a process at a browser prompt. The opening commands are sent first; what they and the start
of the process wrote is not looked at. -/
def start (process : π) (opening : List String) (answers : Nat) : Except Failure (Piped π) :=
  let commands := (opening ++ [browserCommand]).flatMap fun command => command.toList ++ ['\n']
  let (_, fed) := (⟨process, [], some [], true, answers⟩ : Piped π).feed commands
  match collect browserCommand.toList [] (inReads fed.unread) with
  | some (_, later) => .ok { fed with unread := later.flatten }
  | none => .error (.channel browserCommand)

theorem answersLeft_exchange (piped : Piped π) (command : String) :
    (piped.exchange command).2.answersLeft = piped.answersLeft := by
  unfold exchange feed
  dsimp only
  split <;> rfl

instance : Interpreter (Piped π) where
  answer := answer
  patience := answersLeft
  patience_answer_le piped command := by
    unfold answer
    split
    · exact Nat.le_refl _
    next left known =>
      split
      · rw [answersLeft_exchange, known]; exact Nat.le_succ _
      · exact Nat.le_refl _
  patience_step_lt piped said := by
    unfold answer at said ⊢
    split at said
    · cases said
    next left known =>
      split at said
      next present => rw [if_pos present, answersLeft_exchange, known]; exact Nat.lt_succ_self _
      · cases said

end Piped
end RStepper
