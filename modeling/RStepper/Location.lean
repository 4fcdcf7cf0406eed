/-!
Positions in the debugged program: a function and a line of it.
-/

namespace RStepper

/-- A position: the function, and its line as the interpreter counts. -/
structure Location where
  function : String
  line : Int
  deriving DecidableEq, Repr, Inhabited

namespace Location

/-- The name of the script itself among the functions. -/
def scriptName : String := "<main>"

/-- The line of a frame that has nothing left to run. -/
def noLine : Int := -1

def inScript (line : Int) : Location :=
  ⟨scriptName, line⟩

def isInScript (location : Location) : Bool :=
  location.function == scriptName

def render (location : Location) : String :=
  location.function ++ ":" ++ toString location.line

end Location
end RStepper
