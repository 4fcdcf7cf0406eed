import RStepper.Instrument

/-!
Looking at the program while it is paused: the value of an expression, whether a condition holds,
and all variables of the innermost frame.
-/

namespace RStepper.Inspect
open Text

structure Variable where
  name : String
  value : String
  isFunction : Bool
  deriving DecidableEq, Repr, Inhabited

def listNames : String := "ls()"

/-- One character of an expression inside a string literal on one line. -/
def escapeChar (c : Char) : List Char :=
  if c = '\\' ∨ c = '"' then ['\\', c]
  else if c = '\n' then ['\\', 'n']
  else if c = '\r' then ['\\', 'r']
  else [c]

/-- The command that evaluates an expression given as a text. A text that does not parse is then
reported as an error instead of leaving the console at a continuation prompt. -/
def evaluationCommand (expression : String) : String :=
  "eval(parse(text = \"" ++ String.ofList (expression.toList.flatMap escapeChar) ++ "\"))"

/-- The condition of a breakpoint as an expression that prints one truth value. -/
def conditionExpression (condition : String) : String :=
  "isTRUE(" ++ condition ++ ")"

/-- What the console prints for a condition that holds. -/
def truth : String := "[1] TRUE"

/-- The value of a function as it was defined: the two lines that announce a traced function and the
hint behind it are left out. -/
def functionValue (printed : String) : String :=
  let shown := lines printed.toList
  if shown.length < 3 then printed
  else String.ofList (trimEnd (joinLines ((shown.drop 2).dropLast)))

variable {σ : Type} [Interpreter σ]

def evaluate (expression : String) : Talk σ String := do
  let response ← Talk.expecting (evaluationCommand expression) [.printed, .quiet]
  return response.output

/-- Whether a condition holds; one that fails to evaluate does not. -/
def conditionHolds (condition : String) : Talk σ Bool :=
  tryCatch (do
      let printed ← evaluate (conditionExpression condition)
      return trim printed.toList == truth.toList)
    fun failure => if failure.isFatal then throw failure else pure false

/-- The printed value of a variable; an error in printing it stands for the value. -/
def valueOf (name : String) (isFunction : Bool) : Talk σ String :=
  tryCatch (do
      let response ← Talk.expecting (Symbol.quoted name) [.printed]
      return if isFunction then functionValue response.output else response.output)
    fun failure => match failure with
      | .runtime _ report _ => pure report
      | _ => throw failure

def variablesOf (functions : List String) : List String → Talk σ (List Variable)
  | [] => pure []
  | name :: rest => do
    let isFunction := name ∈ functions
    let value ← valueOf name isFunction
    let others ← variablesOf functions rest
    return ⟨name, value, isFunction⟩ :: others

/-- All variables of the innermost frame. -/
def visible : Talk σ (List Variable) := do
  let names ← Talk.expecting listNames [.printed]
  let functions ← Talk.expecting Instrument.listFunctions [.printed]
  variablesOf (Symbol.listed functions.output) (Symbol.listed names.output)

theorem thrifty_evaluate (expression : String) : (evaluate expression : Talk σ String).Thrifty :=
  .bind (Talk.thrifty_expecting _ _) fun _ => .pure _

theorem thrifty_conditionHolds (condition : String) :
    (conditionHolds condition : Talk σ Bool).Thrifty :=
  .tryCatch (.bind (thrifty_evaluate _) fun _ => .pure _) fun failure => by
    split
    · exact .throw _
    · exact .pure _

end RStepper.Inspect
