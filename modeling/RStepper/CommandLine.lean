import RStepper.Launch
import RStepper.Text.Lines

/-!
The command line: a script to debug at the console, with the interpreter's program, the working
directory and the script's arguments; or the debug adapter.
-/

namespace RStepper.CommandLine
open Text

inductive Flag where
  | adapter
  | interpreter
  | directory
  | arguments
  | help
  | version
  deriving DecidableEq, Repr

def flags : List (String × Flag) :=
  [("--dap", .adapter), ("--debug-adapter", .adapter), ("--interpreter", .interpreter),
    ("--cwd", .directory), ("--args", .arguments), ("--help", .help), ("-h", .help),
    ("--version", .version), ("-V", .version)]

def flag? (name : List Char) : Option Flag :=
  (flags.find? (·.1.toList == name)).map (·.2)

structure Found where
  adapter : Bool
  script : Option String
  interpreter : Option String
  directory : Option String
  arguments : Option String
  deriving DecidableEq, Repr, Inhabited

def Found.nothing : Found :=
  ⟨false, none, none, none, none⟩

/-- What a command line asks for. -/
inductive Invocation where
  /-- Serve a debug adapter client. -/
  | adapter
  /-- Debug a script at the console. -/
  | console (launch : Launch)
  /-- There is nothing to debug. -/
  | noScript
  | help
  | version
  /-- The command line cannot be read. -/
  | misuse
  deriving DecidableEq, Repr, Inhabited

/-- A word that is an option by its looks. -/
def looksLikeFlag (word : String) : Bool :=
  startsWith "-" word.toList && word != "-"

/-- Sets what may be given once, and not as an empty text unless that has a meaning. -/
def setOnce (allowsEmpty : Bool) (held : Option String) (value : String) : Option (Option String) :=
  if held.isSome ∨ (value.isEmpty ∧ !allowsEmpty) then none else some (some value)

/-- Takes an option with its value. Options without one are refused here. -/
def Found.set (found : Found) (flag : Flag) (value : String) : Option Found :=
  match flag with
  | .interpreter => (setOnce false found.interpreter value).map fun interpreter =>
      { found with interpreter }
  | .directory => (setOnce false found.directory value).map fun directory => { found with directory }
  | .arguments => (setOnce true found.arguments value).map fun arguments => { found with arguments }
  | _ => none

def Found.setScript (found : Found) (word : String) : Option Found :=
  (setOnce false found.script word).map fun script => { found with script }

def Found.invocation (found : Found) : Invocation :=
  if found.adapter then .adapter
  else match found.script with
    | none => .noScript
    | some script => .console { Launch.standard with
        script
        interpreter := found.interpreter.getD Launch.standard.interpreter
        directory := found.directory
        arguments := found.arguments.getD Launch.standard.arguments }

/-- The option that a word names. Behind a single dash the first letter decides: what stands there
asks for an answer at once, so nothing behind it is read. -/
def named? (word : String) : Option Flag :=
  match word.toList with
  | '-' :: '-' :: name => flag? ('-' :: '-' :: name)
  | '-' :: letter :: _ => flag? ['-', letter]
  | _ => none

/-- Reads words behind the mark that ends the options. -/
def readScripts (found : Found) : List String → Invocation
  | [] => found.invocation
  | word :: rest =>
    match found.setScript word with
    | some found => readScripts found rest
    | none => .misuse

/-- An option with its value in one word. -/
def assignment? (word : String) : Option (Flag × String) :=
  let name := word.toList.takeWhile (· != '=')
  if startsWith "--" name ∧ name.length < word.length then
    (flag? name).map fun flag => (flag, String.ofList (word.toList.drop (name.length + 1)))
  else none

/-- Whether the word behind an option can be its value: the script's arguments may look like options
themselves. -/
def canBeValue (flag : Flag) (word : String) : Bool :=
  flag = .arguments || !looksLikeFlag word

def read (found : Found) : List String → Invocation
  | [] => found.invocation
  | word :: rest =>
    if word = "--" then readScripts found rest
    else if !looksLikeFlag word then
      match found.setScript word with
      | some found => read found rest
      | none => .misuse
    else match assignment? word with
      | some (flag, value) =>
        match found.set flag value with
        | some found => read found rest
        | none => .misuse
      | none =>
        match named? word, rest with
        | none, _ => .misuse
        | some .help, _ => .help
        | some .version, _ => .version
        | some .adapter, rest =>
          if found.adapter then .misuse else read { found with adapter := true } rest
        | some _, [] => .misuse
        | some flag, value :: rest =>
          if canBeValue flag value then
            match found.set flag value with
            | some found => read found rest
            | none => .misuse
          else .misuse

def Invocation.ofWords (words : List String) : Invocation :=
  read .nothing words

example : Invocation.ofWords ["a.R", "--args", "--x 'y z'", "--interpreter=/usr/bin/R"] =
    .console ⟨"/usr/bin/R", "a.R", "--x 'y z'", none, [], true, [], true, 20⟩ := by
  decide +kernel

example : Invocation.ofWords ["--cwd", "--dap"] = .misuse ∧ Invocation.ofWords [] = .noScript ∧
    Invocation.ofWords ["--debug-adapter", "--", "-x"] = .adapter := by decide +kernel

example : Invocation.ofWords ["a.R", "-Vh"] = .version ∧ Invocation.ofWords ["-hV"] = .help ∧
    Invocation.ofWords ["-xV"] = .misuse := by decide +kernel

end RStepper.CommandLine
