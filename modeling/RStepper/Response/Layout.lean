import RStepper.Response.Kind
import RStepper.Response.Marker

/-!
Where the program's output lies among the body lines of a response: the rules are tried in a fixed
order, and each looks only at the markers it names. Line positions count from the first line below
the echoed command; the prompt is not a body line.
-/

namespace RStepper
open Text Marker

/-- The kind of a response and the body lines, from `first` up to but without `stop`, that the
program printed. `stop` may lie at or before `first`; then the program printed nothing. -/
structure Layout where
  kind : Kind
  first : Nat
  stop : Nat
  deriving DecidableEq, Repr

namespace Layout

/-- The position of the first line from `start` on that satisfies `test`; behind the last line if
there is none, and `start` itself if that is behind the last line already. -/
def indexFrom (test : Line → Bool) (start : Nat) (body : List Line) : Nat :=
  start + (body.drop start).findIdx test

/-- The body begins with a call being entered. -/
def entering? (body : List Line) : Option Layout :=
  if body.head?.any isEntering then some ⟨.entering, 0, 0⟩ else none

/-- A trace exit with its return two lines below, and enough lines behind it for another call. -/
def isReturnWithSequel (body : List Line) (index : Nat) : Bool :=
  decide (index + 4 < body.length) && body[index]?.any isTraceExit && body[index + 2]?.any isReturning

/-- A return that a new call follows. Output is what stands before the return or, if nothing does,
between the last return and the new call. -/
def reentered? (body : List Line) : Option Layout :=
  match (List.range body.length).find? (isReturnWithSequel body) with
  | none => none
  | some index =>
    let entry := indexFrom isEntering (index + 3) body
    if entry < body.length then
      if 0 < index then some ⟨.reentered, 0, index⟩
      else
        let returns := (List.range entry).filter fun line =>
          decide (2 ≤ line) && body[line]?.any isReturning
        some ⟨.reentered, returns.getLastD 2 + 1, entry⟩
    else none

/-- The positions of the trace exits that leave room for their return line. -/
def traceExits (body : List Line) : List Nat :=
  (List.range (body.length - 2)).filter fun index => body[index]?.any isTraceExit

/-- One or more returns. Output is what stands before the first or, if nothing does, between the
last return line and the announcement of the current line. -/
def returned? (body : List Line) : Option Layout :=
  match traceExits body with
  | [] => none
  | first :: others =>
    let kind := if others.isEmpty then Kind.returned else Kind.returnedMany
    if first = 0 then
      let start := indexFrom isReturning (others.getLastD first + 2) body + 1
      some ⟨kind, start, indexFrom isCurrentLine start body⟩
    else some ⟨kind, 0, first⟩

/-- A pause; output is what stands before the first announcement of the current line. -/
def paused? (body : List Line) : Option Layout :=
  let stop := indexFrom isCurrentLine 0 body
  if body.head?.any isTraceEntry || body.length ≤ stop then none else some ⟨.paused, 0, stop⟩

/-- An entry hook ran. A body without braces is reported in exactly three lines. -/
def traced? (body : List Line) : Option Layout :=
  if body.head?.any isTraceEntry then
    some ⟨if body.length = 3 then .tracedExpression else .tracedBlock, 0, 0⟩
  else none

/-- The layout of a body that ends at a browser prompt. -/
def ofBody (body : List Line) : Layout :=
  if body.isEmpty then ⟨.quiet, 0, 0⟩
  else (entering? body <|> reentered? body <|> returned? body <|> paused? body <|>
    traced? body).getD ⟨.printed, 0, body.length⟩

end Layout
end RStepper
