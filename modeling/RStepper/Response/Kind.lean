/-!
The kinds of response a browser prompt gives to one command.
-/

namespace RStepper

/-- What the interpreter did with a command, as far as its console shows. -/
inductive Kind where
  /-- The command is incomplete: the console asks for more of it. -/
  | continuation
  /-- Back at the prompt without a word. -/
  | quiet
  /-- The step entered a call that is marked for debugging. -/
  | entering
  /-- Paused at a statement. -/
  | paused
  /-- One traced call returned. -/
  | returned
  /-- Several traced calls returned in one step. -/
  | returnedMany
  /-- A traced call returned and the next one was entered in one step. -/
  | reentered
  /-- The entry hook of a traced function with a braced body ran. -/
  | tracedBlock
  /-- The entry hook of a traced function without braces ran. -/
  | tracedExpression
  /-- Plain output. -/
  | printed
  deriving DecidableEq, Repr, Inhabited

def Kind.label : Kind → String
  | .continuation => "Plus"
  | .quiet => "Empty"
  | .entering => "DebuggingIn"
  | .paused => "DebugAt"
  | .returned => "ExitingFrom"
  | .returnedMany => "RecursiveExitingFrom"
  | .reentered => "ContinueTrace"
  | .tracedBlock => "StartTraceBrace"
  | .tracedExpression => "StartTraceUnbrace"
  | .printed => "Response"

end RStepper
