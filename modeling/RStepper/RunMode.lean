/-!
How far one request runs the program.
-/

namespace RStepper

inductive RunMode where
  /-- To the next breakpoint. -/
  | resume
  /-- To the next position of the same frame or of one below it. -/
  | next
  /-- To the next position. -/
  | into
  /-- Out of the current frame. -/
  | out
  deriving DecidableEq, Repr, Inhabited

/-- Whether a run that started at one depth of the stack ends at another. Breakpoints are not its
business. -/
def RunMode.stopsAt (mode : RunMode) (start depth : Nat) : Bool :=
  match mode with
  | .resume => false
  | .into => true
  | .next => depth ≤ start
  | .out => depth < start

end RStepper
