import RStepper.Adapter.Message
import RStepper.Channel
import RStepper.Text.Blank
import RStepper.Text.Number
import RStepper.Text.Path
import RStepper.Worker.Event

/-!
The bodies of what the adapter writes: its answers to requests, and its events.
-/

namespace RStepper.Adapter
open Text

def granted (number : Nat) (command : String) (body : Option Json) : Content :=
  .response number true command none body

def refused (number : Nat) (command message : String) : Content :=
  .response number false command (some message) none

def noSession : String := "No active debug session"

namespace Body

def capabilities : Json :=
  .object [("supportsConfigurationDoneRequest", .bool true),
    ("supportsStepBack", .bool false),
    ("supportsFunctionBreakpoints", .bool false),
    ("supportsConditionalBreakpoints", .bool true),
    ("supportsEvaluateForHovers", .bool false),
    ("supportsTerminateRequest", .bool true)]

/-- The number of the only thread. -/
def threadNumber : Nat := 1

def threads : Json :=
  .object [("threads", .arr [.object [("id", .int threadNumber), ("name", .str "main")]])]

/-- The scope of a session's variables, or no scope at all. -/
def scopes (hasSession : Bool) : Json :=
  let locals := .object
    [("name", .str "Locals"), ("variablesReference", .int 1), ("expensive", .bool false)]
  .object [("scopes", .arr (if hasSession then [locals] else []))]

def continued : Json :=
  .object [("allThreadsContinued", .bool true)]

/-- The script as the source of a frame. -/
def source (path : String) : Json :=
  .object [("name", .ofOption .str (Path.fileName? path)), ("path", .str path)]

/-- A frame of the stack, counted from the innermost one. Frames of the script name their source. -/
def stackFrame (script : Option String) (frame : Location) (index : Nat) : Json :=
  let origin := if frame.isInScript then script.toList.map fun path => ("source", source path) else []
  .object ([("id", .int (index + 1 : Nat)), ("name", .str frame.function),
    ("line", .int (max frame.line 0)), ("column", .int 1)] ++ origin)

def stack (script : Option String) (frames : List Location) : Json :=
  .object [("stackFrames", .arr (frames.zipIdx.map fun (frame, index) => stackFrame script frame index)),
    ("totalFrames", .int frames.length)]

/-- All breakpoints that were asked for are taken. -/
def breakpoints (points : List (Int × Option String)) : Json :=
  let verified (point : Int × Option String) : Json :=
    .object [("verified", .bool true), ("line", .int point.1)]
  .object [("breakpoints", .arr (points.map verified))]

def evaluated (value : String) : Json :=
  .object [("result", .str value), ("variablesReference", .int 0)]

def variableEntry (entry : Inspect.Variable) : Json :=
  .object ([("name", .str entry.name), ("value", .str entry.value), ("variablesReference", .int 0)] ++
    if entry.isFunction then [("type", .str "function")] else [])

def variableList (entries : List Inspect.Variable) : Json :=
  .object [("variables", .arr (entries.map variableEntry))]

def stopped (stop : Stop) : Json :=
  .object [("reason", .str stop.reason.label), ("threadId", .int threadNumber),
    ("allThreadsStopped", .bool true), ("text", .ofOption .str stop.message)]

def output (category text : String) : Json :=
  .object [("category", .str category), ("output", .str text)]

end Body

def outputEvent (record : Record) : Content :=
  .event "output"
    (some (Body.output (if record.isDiagnostic then "stderr" else "stdout") record.endedText))

def terminatedEvent : Content :=
  .event "terminated" none

/-- The answer to an inspection. -/
def inspected (number : Nat) (command : String) (body : α → Json) : Except String α → Content
  | .ok value => granted number command (some (body value))
  | .error message => refused number command message

/-- A line and a condition that breakpoints are asked for, if the line is one. -/
def breakpoint? (point : Json) : Option (Int × Option String) := do
  let line ← (point.field? "line").bind Json.int?
  if line < -highestLine - 1 ∨ highestLine < line then none
  else
    let condition := ((point.field? "condition").bind Json.string?).map (trim ·.toList)
    return (line, (condition.filter (!·.isEmpty)).map String.ofList)

def breakpointsIn (arguments : Option Json) : List (Int × Option String) :=
  (((arguments.bind (·.field? "breakpoints")).bind Json.items?).getD []).filterMap breakpoint?

def expressionIn? (arguments : Option Json) : Option String :=
  (arguments.bind (·.field? "expression")).bind Json.string?

end RStepper.Adapter
