import RStepper.Inspect
import RStepper.RunMode
import RStepper.Stack

/-!
What a debugging front end asks of the worker, and what the worker reports.
-/

namespace RStepper

/-- What the worker is asked to do. Inspections carry a number that their answer repeats. -/
inductive Request where
  | run (mode : RunMode)
  | runTo (target : Location)
  | evaluate (id : Nat) (expression : String)
  | variables (id : Nat)
  | stop
  deriving DecidableEq, Repr, Inhabited

inductive StopReason where
  | entry
  | step
  | breakpoint
  | exception
  deriving DecidableEq, Repr, Inhabited

def StopReason.label : StopReason → String
  | .entry => "entry"
  | .step => "step"
  | .breakpoint => "breakpoint"
  | .exception => "exception"

/-- A pause of the program: why, where, and what went wrong if something did. -/
structure Stop where
  reason : StopReason
  /-- The positions of all frames, innermost first. -/
  frames : List Location
  message : Option String
  deriving DecidableEq, Repr, Inhabited

def Stop.location (stop : Stop) : Location :=
  stop.frames.headD (.inScript Location.noLine)

inductive Event where
  | stopped (stop : Stop)
  | evaluated (id : Nat) (answer : Except String String)
  | variables (id : Nat) (answer : Except String (List Inspect.Variable))
  | terminated
  | failed (message : String)
  deriving Inhabited

def Stack.stop (stack : Stack) (reason : StopReason) (message : Option String) : Event :=
  .stopped ⟨reason, stack.locations, message⟩

end RStepper
