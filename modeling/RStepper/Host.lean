import RStepper.Launch
import RStepper.Stack

/-!
The system a session runs on: the files it can read, and the interpreters it can start.
-/

namespace RStepper

/-- Why a script cannot be read. -/
inductive ReadFault where
  | missing
  | isDirectory
  | notDirectory
  | denied
  | notText
  /-- The path holds a NUL character, so nothing can have it. -/
  | holdsNul
  deriving DecidableEq, Repr

def ReadFault.message : ReadFault → String
  | .missing => "No such file or directory (os error 2)"
  | .isDirectory => "Is a directory (os error 21)"
  | .notDirectory => "Not a directory (os error 20)"
  | .denied => "Permission denied (os error 13)"
  | .notText => StreamFault.notUtf8.message
  | .holdsNul => "file name contained an unexpected NUL byte"

structure Host (σ : Type) where
  readScript : String → Except ReadFault String
  startInterpreter : Launch → Except Failure σ

/-- A script and the session that is about to run it. -/
structure Prepared (σ : Type) where
  source : String
  debuggee : Debuggee σ

namespace Host
variable {σ : Type}

def unreadable (path : String) (fault : ReadFault) : Failure :=
  .settings ("Cannot read " ++ path ++ ": " ++ fault.message)

/-- The text of a script; a path with a NUL character is not looked for. -/
def script (host : Host σ) (path : String) : Except ReadFault String :=
  if holdsNul path then .error .holdsNul else host.readScript path

/-- Prepares a session as settings ask for it: the settings are checked, the script is read, and the
interpreter is started. -/
def prepare (host : Host σ) (launch : Launch) : Except Failure (Prepared σ) := do
  launch.validate
  let source ← (host.script launch.script).mapError (unreadable launch.script)
  let interpreter ← host.startInterpreter launch
  return ⟨source, .start source interpreter⟩

end Host
end RStepper
