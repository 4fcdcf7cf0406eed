import RStepper.Channel.Patience
import RStepper.Symbol

/-!
Making functions steppable: each one gets two hooks that print its name, is traced with them, and is
marked for debugging. The hooks have names of their own, which are never instrumented.
-/

namespace RStepper.Instrument

def listFunctions : String := "Filter(function(x) is.function(get(x)), ls())"

/-- The beginning of every name that belongs to the debugger. -/
def serviceStart : String := ".rdbg_"

def isService (name : String) : Bool :=
  Text.startsWith serviceStart name.toList

inductive Hook where
  | enter
  | exit
  deriving DecidableEq, Repr

def Hook.ending : Hook → String
  | .enter => "_enter"
  | .exit => "_exit"

def hookName (name : String) (hook : Hook) : String :=
  serviceStart ++ name ++ hook.ending

/-- A text inside a string literal: a backslash stands before backslashes and quotes. -/
def escapeLiteral (text : List Char) : List Char :=
  text.flatMap fun c => if c = '\\' ∨ c = '"' then ['\\', c] else [c]

/-- Defines a hook that prints the function's name. -/
def defineHook (name : String) (hook : Hook) : String :=
  Symbol.quoted (hookName name hook) ++ " <- function() \x7b print(\"" ++
    String.ofList (escapeLiteral name.toList) ++ "\") \x7d"

/-- The commands that hook up one function, each with the only kind of response it may get. -/
def commands (name : String) : List (String × Kind) :=
  let function := Symbol.quoted name
  let enter := Symbol.quoted (hookName name .enter)
  let exit := Symbol.quoted (hookName name .exit)
  [(defineHook name .enter, .quiet),
    (defineHook name .exit, .quiet),
    ("trace(" ++ function ++ ", " ++ enter ++ ", exit = " ++ exit ++ ")", .printed),
    ("debug(" ++ function ++ ")", .quiet)]

variable {σ : Type} [Interpreter σ]

def runAll : List (String × Kind) → Talk σ Unit
  | [] => pure ()
  | (command, kind) :: rest => do
    let _ ← Talk.expecting command [kind]
    runAll rest

def function (name : String) : Talk σ Unit :=
  runAll (commands name)

/-- The functions of a listing that are not the debugger's own. -/
def targets (listing : String) : List String :=
  (Symbol.listed listing).filter (!isService ·)

/-- Finds the functions of the current frame and hooks up each of them. -/
def loadFunctions : Talk σ Unit := do
  let listing ← Talk.expecting listFunctions [.printed]
  runAll ((targets listing.output).flatMap commands)

theorem thrifty_runAll (plan : List (String × Kind)) : (runAll plan : Talk σ Unit).Thrifty := by
  induction plan with
  | nil => exact .pure _
  | cons entry rest ih => exact .bind (Talk.thrifty_expecting _ _) fun _ => ih

theorem thrifty_loadFunctions : (loadFunctions : Talk σ Unit).Thrifty :=
  .bind (Talk.thrifty_expecting _ _) fun _ => thrifty_runAll _

end RStepper.Instrument
