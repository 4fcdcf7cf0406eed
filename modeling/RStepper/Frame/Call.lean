import RStepper.Frame.Basic
import RStepper.Frame.Position
import RStepper.Instrument

/-!
Stepping a traced call. A step moves the call to another statement of its body, enters a call it
makes, turns it into the next call when it returns and another one starts at once, or finishes it.
The head of a braced loop is stepped past: it is where the loop is announced, not a statement.
-/

namespace RStepper.CallFrame
variable {σ : Type} [Interpreter σ]

/-- The announcement of the current line behind a response's output. -/
def announcedBy (response : Response) : Option (List Char) :=
  Position.announcement? (Text.dropBytes response.outputEnd response.text.toList)

/-- Writes a pause's output and moves the frame to the announced line. -/
def noted (response : Response) (scene : Scene CallFrame σ) : Scene CallFrame σ :=
  { scene with
    frame := scene.frame.atLine? ((announcedBy response).bind Position.lineNumber?)
    channel := scene.channel.write ⟨response.output, false⟩ }

/-- Pauses where a response says, or at the first statement behind it that is no loop header. -/
def pauseIn (response : Response) (scene : Scene CallFrame σ) :
    Except Failure Unit × Scene CallFrame σ :=
  let here := noted response scene
  if (announcedBy response).any Position.isLoopHeader then
    match _stepped : (Talk.expecting stepCommand [.paused]).runOver here.channel with
    | (.ok next, channel) => pauseIn next { here with channel }
    | (.error failure, channel) => (.error failure, { here with channel })
  else (.ok (), here)
termination_by scene.channel.patience
decreasing_by
  have spent := Talk.patience_expecting_lt _stepped
  simpa [here, noted] using spent

def pauseAt (response : Response) : Act CallFrame σ Unit :=
  .of (pauseIn response)

/-- From the entry hook to the first statement. -/
def enter : Act CallFrame σ Unit := do
  let frame ← Act.frame
  match frame.shape with
  | .block =>
    let response ← Act.talk (Talk.expecting stepCommand [.paused])
    pauseAt response
  | .expression => Act.modifyFrame fun frame => { frame with status := .paused 1 }
  Act.talk Instrument.loadFunctions

/-- The frame of a call whose entry hook has run, paused at its first statement. -/
def start (entry : Entry) : Talk σ CallFrame :=
  ExceptT.mk fun channel =>
    let (outcome, scene) := enter.runOver ⟨⟨entry.shape, entry.name, .paused 1⟩, .none, channel⟩
    (outcome.map fun _ => scene.frame, scene.channel)

/-- The frame of the call that the last step entered. -/
def ofCall : Talk σ CallFrame := do
  let entry ← Entry.find
  start entry

/-- The returned call gives its frame to the next one, whose body must have the same shape. -/
def reenter (response : Response) : Act CallFrame σ Unit := do
  Act.talk (Talk.emit response.output)
  let entry ← Act.talk Entry.find
  let frame ← Act.frame
  if entry.shape ≠ frame.shape then
    throw (Talk.unexpected stepCommand entry.response [frame.shape.traceKind])
  Act.modifyFrame fun frame => { frame with name := entry.name }
  enter

/-- The number of return lines in a response. -/
def returnCount (response : Response) : Nat :=
  (Text.lines response.text.toList).countP Marker.isReturning

/-- The line that the caller goes on at: the announced one or, if that is a loop header, the one
behind it where that has a number. -/
def returnLine (response : Response) : Talk σ (Option Int) := do
  let announced := Position.announcementAfterReturns? response.text.toList
  let line := announced.bind Position.lineNumber?
  if announced.any Position.isLoopHeader then
    let next ← Talk.expecting stepCommand [.paused]
    Talk.emit next.output
    return ((announcedBy next).bind Position.lineNumber?).or line
  else return line

/-- The call returned, perhaps together with callers of its. -/
def leave (response : Response) (many : Bool) : Act CallFrame σ Unit := do
  Act.talk (Talk.emit response.output)
  if many then
    Act.modifyChange fun change => { change with dropped := returnCount response - 1 }
  let line ← Act.talk (returnLine response)
  if line.isSome then
    Act.modifyChange fun change => { change with returnLine := line }
  Act.modifyFrame (·.returning response.output)

/-- The kinds of response that a step of a call may have. -/
def stepKinds : List Kind :=
  [.paused, .entering, .reentered, .returned, .returnedMany, .quiet]

/-- What a step's response does to the call. A bare prompt ends an expression, and says nothing
about a block. -/
def follow (response : Response) : Act CallFrame σ Unit := do
  let frame ← Act.frame
  match response.kind with
  | .paused =>
    pauseAt response
    Act.talk Instrument.loadFunctions
  | .entering =>
    let callee ← Act.talk ofCall
    Act.modifyChange fun change => { change with entered := change.entered ++ [callee] }
  | .reentered => reenter response
  | .returned => leave response false
  | .returnedMany => leave response true
  | .quiet =>
    match frame.shape with
    | .block => pure ()
    | .expression => Act.modifyFrame (·.returning "")
  | _ => throw (Talk.unexpected stepCommand response stepKinds)

/-- One step of the call; a call that returned does not step. -/
def advance : Act CallFrame σ Unit := do
  let frame ← Act.frame
  if frame.isActive then
    let response ← Act.talk (Talk.execute stepCommand)
    follow response

/-- Where the caller goes on. -/
def setReturnLine (frame : CallFrame) (line : Int) : CallFrame :=
  frame.atLine line

end RStepper.CallFrame
