import RStepper.Channel.Patience
import RStepper.Response.Marker
import RStepper.Text.Blank

/-!
Finding the entry of a call. Between the step that enters a traced call and its entry hook lie a few
steps of the tracing wrapper; the probe takes at most so many of them.
-/

namespace RStepper
open Text

/-- How a function's body is written. -/
inductive BodyShape where
  /-- In braces: every statement has a line of its own. -/
  | block
  /-- One expression, whose only line is the first. -/
  | expression
  deriving DecidableEq, Repr, Inhabited

/-- The shape that an entry hook's response tells. -/
def BodyShape.ofTrace? : Kind → Option BodyShape
  | .tracedBlock => some .block
  | .tracedExpression => some .expression
  | _ => none

def BodyShape.traceKind : BodyShape → Kind
  | .block => .tracedBlock
  | .expression => .tracedExpression

/-- A traced call at its entry hook. -/
structure Entry where
  name : String
  shape : BodyShape
  response : Response
  deriving DecidableEq, Repr

namespace Entry

def traceKinds : List Kind := [.tracedBlock, .tracedExpression]

def probeKinds : List Kind := [.printed, .tracedBlock, .tracedExpression]

/-- The number of wrapper steps that may come before the entry hook. -/
def wrapperSteps : Nat := 3

/-- A step inside the tracing wrapper: plain output, or a pause without a line number. -/
def isWrapperStep (response : Response) : Bool :=
  match response.kind with
  | .printed => true
  | .paused => ((lines response.text.toList).find? Marker.isCurrentLine).any Marker.isUnnumbered
  | _ => false

/-- The name that the entry hook printed. -/
def echoedName? (line : Line) : Option Line :=
  (stripStart "[1] \"" line).bind (stripEnd "\"")

/-- The function of a call as the trace line shows it. -/
def callee (traceLine : Line) : Line :=
  let call :=
    if Marker.isTraceEntry traceLine then (stripStart Marker.tracingMark traceLine).getD traceLine
    else traceLine
  call.takeWhile fun c => c != '(' && !isBlank c

/-- The name of the entered function: what its hook printed below the trace line or, failing that,
the function of the traced call. -/
def enteredName (text : String) : String :=
  let shown := lines text.toList
  String.ofList ((shown[1]?.bind echoedName?).getD (callee (shown.head?.getD [])))

variable {σ : Type} [Interpreter σ]

/-- Takes one step, and is done if the entry hook has run. -/
def step (otherwise : Response → Talk σ Entry) : Talk σ Entry := do
  let response ← Talk.execute stepCommand
  match BodyShape.ofTrace? response.kind with
  | some shape => pure ⟨enteredName response.text, shape, response⟩
  | none => otherwise response

/-- Steps on until the entry hook has run, over so many wrapper steps at most. -/
def findWithin : Nat → Talk σ Entry
  | 0 => step fun response => throw (Talk.unexpected stepCommand response traceKinds)
  | steps + 1 => step fun response =>
    if isWrapperStep response then findWithin steps
    else throw (Talk.unexpected stepCommand response probeKinds)

def find : Talk σ Entry :=
  findWithin wrapperSteps

theorem thrifty_step {otherwise : Response → Talk σ Entry}
    (rest : ∀ response, (otherwise response).Thrifty) : (step otherwise).Thrifty := by
  refine .bind (Talk.thrifty_execute _) fun response => ?_
  split
  · exact .pure _
  · exact rest _

theorem thrifty_findWithin (steps : Nat) : (findWithin steps : Talk σ Entry).Thrifty := by
  induction steps with
  | zero => exact thrifty_step fun _ => .throw _
  | succ steps ih =>
    refine thrifty_step fun response => ?_
    split
    · exact ih
    · exact .throw _

theorem thrifty_find : (find : Talk σ Entry).Thrifty :=
  thrifty_findWithin _

end Entry
end RStepper
