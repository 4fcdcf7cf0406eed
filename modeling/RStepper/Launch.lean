import RStepper.Failure
import RStepper.Text.Blank
import RStepper.Text.Path
import RStepper.Text.Words

/-!
How the interpreter is started for a session: its program, its arguments, its directory and its
environment.
-/

namespace RStepper
open Text

/-- The settings of a session. -/
structure Launch where
  /-- The interpreter's program. -/
  interpreter : String
  /-- The path of the script. -/
  script : String
  /-- The arguments of the script, as a shell would read them. -/
  arguments : String
  /-- The working directory, if it is not the script's. -/
  directory : Option String
  /-- Variables that are set for the interpreter, sorted by name. -/
  environment : List (String × String)
  /-- Whether the interpreter sees the variables of this process too. -/
  inheritsEnvironment : Bool
  /-- Commands that are sent before the first prompt. -/
  opening : List String
  /-- Whether the client is told of the pause at the first statement. -/
  stopsOnEntry : Bool
  /-- How long to wait for late diagnostics, in milliseconds. -/
  settleTime : Nat
  deriving DecidableEq, Repr, Inhabited

namespace Launch

def standard : Launch :=
  ⟨"R", "", "", none, [], true, [], true, 20⟩

def ofScript (script : String) : Launch :=
  { standard with script }

def isBlankPath (path : String) : Bool :=
  (trim path.toList).isEmpty

def noInterpreter : Failure := .settings "The R interpreter is not specified"

def noScript : Failure := .settings "The R script is not specified"

def noDirectory : Failure := .settings "The working directory couldn't be calculated"

def malformedArguments (arguments : String) : Failure :=
  .settings ("Malformed script arguments: " ++ arguments)

/-- The directory of the script; a script without one is in the current directory. -/
def scriptDirectory (launch : Launch) : Except Failure String :=
  match Path.parent? launch.script with
  | none => .error noDirectory
  | some parent => .ok (if parent.isEmpty then "." else parent)

/-- The working directory: the one asked for, or else the script's. -/
def workingDirectory (launch : Launch) : Except Failure String :=
  match launch.directory.filter (!isBlankPath ·) with
  | some directory => .ok directory
  | none => launch.scriptDirectory

/-- Checks that the settings name an interpreter, a script and a directory. -/
def validate (launch : Launch) : Except Failure Unit := do
  if isBlankPath launch.interpreter then throw noInterpreter
  if isBlankPath launch.script then throw noScript
  let _ ← launch.workingDirectory

/-- The arguments that make the interpreter wait for commands and say no more than it must. -/
def consoleArguments : List String :=
  ["--quiet", "--no-save", "--no-restore", "--no-readline", "--interactive"]

/-- What parts the script's arguments from the interpreter's. -/
def argumentMark : String := "--args"

def commandLine (launch : Launch) : Except Failure (String × List String) := do
  launch.validate
  let arguments := String.ofList (trim launch.arguments.toList)
  if arguments.isEmpty then return (launch.interpreter, consoleArguments)
  match Words.split? arguments with
  | none => throw (malformedArguments arguments)
  | some words => return (launch.interpreter, consoleArguments ++ argumentMark :: words)

end Launch

/-- The system ends a text at a NUL character, so it takes none that holds one. -/
def holdsNul (text : String) : Bool :=
  text.toList.contains '\x00'

/-- What the system is asked for to start an interpreter. -/
structure Start where
  program : String
  arguments : List String
  directory : String
  /-- Variables that are set besides those that are inherited. -/
  environment : List (String × String)
  deriving DecidableEq, Repr, Inhabited

namespace Start

def texts (start : Start) : List String :=
  start.program :: start.directory :: start.arguments ++
    start.environment.flatMap fun (name, value) => [name, value]

/-- What settings ask the system for; a NUL character in any of it is a start that fails. -/
def ofLaunch (launch : Launch) : Except Failure Start := do
  let (program, arguments) ← launch.commandLine
  let directory ← launch.workingDirectory
  let start : Start := ⟨program, arguments, directory, launch.environment⟩
  if start.texts.any holdsNul then throw (.channel program)
  return start

example : ((ofLaunch (.ofScript "s.R")).toOption.map (·.directory)) = some "." ∧
    (ofLaunch { Launch.ofScript "s.R" with environment := [("A", "x\x00y")] }).toOption = none := by
  decide +kernel

end Start
end RStepper
