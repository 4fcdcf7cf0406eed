import RStepper.Response.Kind
import RStepper.Text.Quoted

/-!
What can go wrong in a session, and the words for it.
-/

namespace RStepper

/-- A byte stream that does not hold what its reader needs. -/
inductive StreamFault where
  /-- The stream ended inside something. -/
  | endedEarly
  /-- The bytes are not UTF-8. -/
  | notUtf8
  /-- The text is no message. -/
  | notMessage
  deriving DecidableEq, Repr, Inhabited

def StreamFault.message : StreamFault → String
  | .endedEarly => "failed to fill whole buffer"
  | .notUtf8 => "stream did not contain valid UTF-8"
  | .notMessage => "malformed message"

/-- Why an operation did not succeed. -/
inductive Failure where
  /-- The response to a command has no prompt at its end. -/
  | incomplete (command raw : String)
  /-- A response of a kind that has no place where it came. -/
  | unexpected (command : String) (actual : Kind) (expected : List Kind) (raw : String)
  /-- The interpreter reported an error while it ran a command. -/
  | runtime (command report raw : String)
  /-- The interpreter is gone. -/
  | channel (command : String)
  /-- The session cannot be started as asked. -/
  | settings (reason : String)
  | stream (fault : StreamFault)
  deriving DecidableEq, Repr, Inhabited

namespace Failure

/-- A session survives the errors that the interpreter reports, and no other failure. -/
def isFatal : Failure → Bool
  | .runtime .. => false
  | _ => true

def command : Failure → Option String
  | .incomplete command _ => some command
  | .unexpected command _ _ _ => some command
  | .runtime command _ _ => some command
  | .channel command => some command
  | .settings _ => none
  | .stream _ => none

def message : Failure → String
  | .incomplete command raw =>
    "incomplete response to `" ++ command ++ "`: " ++ Text.Quoted.encode raw
  | .unexpected command actual expected _ =>
    "unexpected execution result for `" ++ command ++ "`: got " ++ actual.label ++
      ", expected one of [" ++ String.intercalate ", " (expected.map Kind.label) ++ "]"
  | .runtime command report _ => "interpreter failed while running `" ++ command ++ "`: " ++ report
  | .channel command => "interpreter channel failed after `" ++ command ++ "`"
  | .settings reason => "invalid run configuration: " ++ reason
  | .stream fault => fault.message

end Failure
end RStepper
