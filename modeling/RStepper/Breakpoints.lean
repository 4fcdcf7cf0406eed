import RStepper.Location

/-!
Breakpoints: a set of positions, each with a condition or without one, and a temporary breakpoint
that is gone once it has stopped the program.
-/

namespace RStepper

/-- What reaching a breakpoint asks for. -/
inductive Hit where
  | stop
  /-- Stop only if this condition holds at the pause. -/
  | stopIf (condition : String)
  deriving DecidableEq, Repr

structure Breakpoint where
  location : Location
  condition : Option String
  deriving DecidableEq, Repr, Inhabited

def Breakpoint.hit (breakpoint : Breakpoint) : Hit :=
  breakpoint.condition.elim .stop .stopIf

/-- The breakpoints that are set, at most one for each position, and the temporary one. -/
structure Breakpoints where
  points : List Breakpoint
  temporary : Option Location
  deriving DecidableEq, Repr, Inhabited

namespace Breakpoints

def empty : Breakpoints :=
  ⟨[], none⟩

def remove (breakpoints : Breakpoints) (location : Location) : Breakpoints :=
  { breakpoints with points := breakpoints.points.filter (·.location ≠ location) }

/-- Sets a breakpoint; one that was set at the same position is replaced. -/
def insert (breakpoints : Breakpoints) (breakpoint : Breakpoint) : Breakpoints :=
  { breakpoints with
    points := breakpoint :: (breakpoints.remove breakpoint.location).points }

def add (breakpoints : Breakpoints) (location : Location) : Breakpoints :=
  breakpoints.insert ⟨location, none⟩

def addConditional (breakpoints : Breakpoints) (location : Location) (condition : String) :
    Breakpoints :=
  breakpoints.insert ⟨location, some condition⟩

def find? (breakpoints : Breakpoints) (location : Location) : Option Breakpoint :=
  breakpoints.points.find? (·.location = location)

def contains (breakpoints : Breakpoints) (location : Location) : Bool :=
  (breakpoints.find? location).isSome

/-- Replaces all breakpoints of one function by the given lines and their conditions. -/
def replaceLines (breakpoints : Breakpoints) (function : String)
    (lines : List (Int × Option String)) : Breakpoints :=
  lines.foldl (fun kept (line, condition) => kept.insert ⟨⟨function, line⟩, condition⟩)
    { breakpoints with points := breakpoints.points.filter (·.location.function ≠ function) }

def setTemporary (breakpoints : Breakpoints) (location : Location) : Breakpoints :=
  { breakpoints with temporary := some location }

def clearTemporary (breakpoints : Breakpoints) : Breakpoints :=
  { breakpoints with temporary := none }

def clear (_ : Breakpoints) : Breakpoints :=
  empty

/-- What is asked for at a position. The temporary breakpoint stops always and only once. -/
def hit (breakpoints : Breakpoints) (location : Location) : Option Hit × Breakpoints :=
  if breakpoints.temporary = some location then (some .stop, breakpoints.clearTemporary)
  else ((breakpoints.find? location).map Breakpoint.hit, breakpoints)

end Breakpoints
end RStepper
