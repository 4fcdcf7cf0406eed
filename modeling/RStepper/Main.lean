import RStepper.Interpreter.Piped
import RStepper.Interpreter.Recorded
import RStepper.Program

/-!
The program's outer layer. An interpreter `R` is reached over the named pipes `R.in`, `R.out` and
`R.err`. All that is said is computed from the answers that are known; where one is missing, the
interpreter is asked for it and the computation is done again.
-/

namespace RStepper
open Text Console Adapter

/-- Bytes that arrive in the background. -/
structure Inlet where
  arrived : IO.Ref (List UInt8)
  hasEnded : IO.Ref Bool

namespace Inlet

partial def fill (inlet : Inlet) (read : IO ByteArray) : IO Unit := do
  let bytes ← read
  if bytes.isEmpty then inlet.hasEnded.set true
  else
    inlet.arrived.modify (· ++ bytes.toList)
    inlet.fill read

def ofRead (read : IO ByteArray) : IO Inlet := do
  let inlet : Inlet := ⟨← IO.mkRef [], ← IO.mkRef false⟩
  let _ ← IO.asTask (inlet.fill read) .dedicated
  return inlet

def taken (inlet : Inlet) : IO (List UInt8) :=
  inlet.arrived.modifyGet fun bytes => (bytes, [])

/-- Waits for bytes; there are none at the end. -/
partial def next (inlet : Inlet) : IO (List UInt8) := do
  let ended ← inlet.hasEnded.get
  let bytes ← inlet.taken
  if ended ∨ !bytes.isEmpty then return bytes
  IO.sleep 1
  inlet.next

end Inlet

structure Pipes where
  commands : IO.FS.Handle
  output : Inlet
  diagnostics : Inlet
  /-- The beginning of a diagnostic line, unless that stream is broken. -/
  diagnosticTail : IO.Ref (Option (List UInt8))
  settleTime : Nat

namespace Pipes

/-- Reads until the response to a command is complete. -/
partial def collect (pipes : Pipes) (command : String) (held : List UInt8) :
    IO (Option (List UInt8)) := do
  let bytes ← pipes.output.next
  if bytes.isEmpty then return none
  match Piped.collect command.toList held [bytes] with
  | some (whole, _) => return some whole
  | none => pipes.collect command (held ++ bytes)

/-- The diagnostics that came until now, in whole lines. -/
def diagnose (pipes : Pipes) : IO String := do
  let bytes ← pipes.diagnostics.taken
  match ← pipes.diagnosticTail.get with
  | none => return ""
  | some tail =>
    let (text, rest) := Piped.diagnosticLines (byteLines (tail ++ bytes))
    pipes.diagnosticTail.set rest
    return String.ofList text

def send (pipes : Pipes) (command : String) : IO Unit := do
  pipes.commands.putStr (command ++ "\n")
  pipes.commands.flush

def ask (pipes : Pipes) (command : String) : IO Reply := do
  try
    pipes.send command
    match ← pipes.collect command [] with
    | none => return .closed
    | some bytes =>
      IO.sleep pipes.settleTime.toUInt32
      return .said (String.ofList (Utf8.decodeLossy bytes)) (← pipes.diagnose)
  catch _ => return .closed

def openAt (launch : Launch) : IO Pipes := do
  let commands ← IO.FS.Handle.mk (launch.interpreter ++ ".in") .write
  let output ← IO.FS.Handle.mk (launch.interpreter ++ ".out") .read
  let diagnostics ← IO.FS.Handle.mk (launch.interpreter ++ ".err") .read
  return ⟨commands, ← Inlet.ofRead (output.read 1), ← Inlet.ofRead (diagnostics.read 1),
    ← IO.mkRef (some []), launch.settleTime⟩

def start (launch : Launch) : IO (Except Failure Pipes) := do
  match Start.ofLaunch launch with
  | .error failure => return .error failure
  | .ok start =>
    try
      let pipes ← openAt launch
      launch.opening.forM pipes.send
      match ← pipes.ask Piped.browserCommand with
      | .said .. => return .ok pipes
      | _ => return .error (.channel Piped.browserCommand)
    catch _ => return .error (.channel start.program)

end Pipes

def readScript (path : String) : IO (Except ReadFault String) := do
  if holdsNul path then return .error .holdsNul
  try
    match Utf8.decode? (← IO.FS.readBinFile path).toList with
    | some text => return .ok (String.ofList text)
    | none => return .error .notText
  catch
    | .permissionDenied .. => return .error .denied
    | .inappropriateType .. => return .error .isDirectory
    | _ => return .error .missing

/-- What the system has for some settings: all that a host is asked for while a session is prepared,
and the pipes of that session. -/
def consultSystem (launch : Launch) : IO (Host Recorded × Option Pipes) := do
  match launch.validate with
  | .error failure => return (⟨fun _ => .error .missing, fun _ => .error failure⟩, none)
  | .ok () =>
    let script ← readScript launch.script
    match script with
    | .error fault => return (⟨fun _ => .error fault, fun _ => .ok ⟨[]⟩⟩, none)
    | .ok source =>
      let started ← Pipes.start launch
      return (⟨fun _ => .ok source, fun _ => started.map fun _ => ⟨[]⟩⟩, started.toOption)

/-- Does something with the answers that are known, and again with one more as long as one is
missing. -/
partial def complete (pipes : Option Pipes) (known : List Reply) (act : Recorded → α)
    (awaited? : α → Option String) (tell : α → IO Unit) : IO α := do
  let result := act ⟨known⟩
  tell result
  match awaited? result with
  | none => return result
  | some command =>
    let reply ← match pipes with
      | some pipes => pipes.ask command
      | none => pure .closed
    complete pipes (known ++ [reply]) act awaited? tell

/-- The next line of the input, with its end. -/
partial def readLine (held : List UInt8) : IO (List UInt8) := do
  let byte ← (← IO.getStdin).read 1
  let line := held ++ byte.toList
  if byte.isEmpty ∨ line.getLast? = some 0x0A then return line else readLine line

def tellUser (told : IO.Ref Nat) (dialogue : Dialogue Recorded) : IO Unit := do
  let before ← told.modifyGet fun before => (before, dialogue.shown.length)
  for piece in dialogue.shown.drop before do
    (← IO.getStdout).putStr (Program.outputOf piece)
    (← IO.getStderr).putStr (Program.diagnosticsOf piece)
  (← IO.getStdout).flush
  (← IO.getStderr).flush

partial def converse (pipes : Pipes) (told : IO.Ref Nat) (dialogue : Dialogue Recorded) :
    IO Outcome := do
  let asking := dialogue.tell menu
  tellUser told asking
  let line ← readLine []
  if line.isEmpty then return .finished
  let (outcome, later) ← complete (some pipes) []
    (fun known =>
      { asking with worker.debuggee.channel.interpreter := known }.takeBytes line)
    (fun (_, later) => later.worker.debuggee.channel.awaited?) (fun (_, later) => tellUser told later)
  match outcome with
  | some outcome => return outcome
  | none => converse pipes told later

def debug (launch : Launch) : IO Nat := do
  let (host, pipes) ← consultSystem launch
  match host.prepare launch, pipes with
  | .ok prepared, some pipes =>
    let told ← IO.mkRef 0
    let (outcome, dialogue) := (Program.dialogueOf prepared).awaitStop
    tellUser told dialogue
    return Program.codeOf (← match outcome with
      | some outcome => pure outcome
      | none => converse pipes told dialogue)
  | _, _ => return Program.failed

def tellClient (told : IO.Ref Nat) (server : Server Recorded) : IO Unit := do
  let before ← told.modifyGet fun before => (before, server.written.length)
  for message in server.written.drop before do
    (← IO.getStdout).putStr (String.ofList message.frame)
  (← IO.getStdout).flush

/-- Lets a server do something until it has nothing left to do. -/
def settle (pipes : Option Pipes) (told : IO.Ref Nat) (server : Server Recorded)
    (act : Server Recorded → Server Recorded) : IO (Server Recorded) :=
  complete pipes []
    (fun known => (act (server.mapSession fun session =>
      { session with worker.debuggee.channel.interpreter := known })).settled)
    (fun later => later.session.bind (·.worker.debuggee.channel.awaited?)) (tellClient told)

/-- The host for a message, and the pipes behind it. -/
def hostFor (message : Message) : IO (Host Recorded × Option Pipes) := do
  match message.content with
  | .request "launch" arguments =>
    match Server.settingsIn arguments with
    | .ok launch => consultSystem launch
    | .error _ => consultSystem .standard
  | _ => consultSystem .standard

/-- Serves messages until the input ends or the client disconnects. -/
partial def serve (input : Inlet) (told : IO.Ref Nat) (pipes : Option Pipes)
    (server : Server Recorded) (unread : List UInt8) : IO Nat := do
  let more ← if isPartial unread then input.next else pure []
  if isPartial unread ∧ !more.isEmpty then serve input told pipes server (unread ++ more)
  else
    match readMessage unread with
    | (.message message, rest) =>
      let (host, started) ← hostFor message
      let now := started.or pipes
      let later ← settle now told server (·.receive host message)
      if later.isServing then serve input told now later rest else return Program.success
    | (.none, _) =>
      let _ ← settle pipes told server Server.finish
      return Program.success
    | (.fault _, _) =>
      let _ ← settle pipes told server Server.abandon
      return Program.failed

def obey (invocation : CommandLine.Invocation) : IO Nat := do
  match invocation with
  | .adapter => serve (← Inlet.ofRead ((← IO.getStdin).read 1)) (← IO.mkRef 0) none .fresh []
  | .console launch => debug launch
  | other =>
    let finished := Program.run (σ := Recorded) ⟨fun _ => .error .missing, fun _ => .ok ⟨[]⟩⟩ other []
    (← IO.getStdout).putStr finished.output
    return finished.code

end RStepper

def main (words : List String) : IO UInt32 := do
  return (← RStepper.obey (.ofWords words)).toUInt32
