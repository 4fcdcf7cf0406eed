/-!
The interpreter as an outside party: all that is known of it is how it answers a command. The one
promise is that it does not answer steps without end, so that every run of the debugger comes to an
end; it may answer all other commands as long as it likes.
-/

namespace RStepper

/-- The command that steps to the next statement. -/
def stepCommand : String := "n"

/-- The interpreter's answer to one command. -/
inductive Reply where
  /-- The console text behind the echoed command, and what came on the diagnostic stream. -/
  | said (body diagnostics : String)
  /-- The channel is closed. -/
  | closed
  /-- No answer until the session is ended from outside, and then a closed channel. -/
  | pending
  deriving DecidableEq, Repr, Inhabited

def Reply.isSaid : Reply → Bool
  | .said .. => true
  | .closed => false
  | .pending => false

/-- Something that answers commands. `patience` bounds the steps it has left to answer. -/
class Interpreter (σ : Type) where
  answer : σ → String → Reply × σ
  patience : σ → Nat
  patience_answer_le : ∀ state command, patience (answer state command).2 ≤ patience state
  patience_step_lt : ∀ state, (answer state stepCommand).1.isSaid = true →
    patience (answer state stepCommand).2 < patience state

end RStepper
