/-!
File paths as texts: the directory that holds a path, and its last name. Slashes and single dots at
the end of a path, and behind the directory, do not count; nothing is looked up.
-/

namespace RStepper.Text.Path

/-- The start of a path that is no name: the root, or a leading dot. -/
def rootOf : List Char → List Char
  | '/' :: _ => ['/']
  | ['.'] => ['.']
  | '.' :: '/' :: _ => ['.']
  | _ => []

/-- The last name of a reversed path and what stands before its slash, both reversed. -/
def splitLast (reversed : List Char) : List Char × List Char :=
  (reversed.takeWhile (· != '/'), (reversed.dropWhile (· != '/')).drop 1)

theorem length_splitLast_lt {reversed : List Char} (some : reversed ≠ []) :
    (splitLast reversed).2.length < reversed.length := by
  cases reversed with
  | nil => exact absurd rfl some
  | cons c rest =>
    have shorter := (List.dropWhile_sublist (p := (· != '/')) (l := rest)).length_le
    simp only [splitLast, List.dropWhile_cons, List.length_cons]
    split
    · rw [List.length_drop]; omega
    · simp

/-- A reversed path without the slashes and single dots at its end. -/
def settle (reversed : List Char) : List Char :=
  if _some : reversed = [] then []
  else if (splitLast reversed).1 = [] ∨ (splitLast reversed).1 = ['.'] then
    settle (splitLast reversed).2
  else reversed
termination_by reversed.length
decreasing_by exact length_splitLast_lt _some

/-- The names of a path behind its root, reversed and settled. -/
def settledBody (path : List Char) : List Char :=
  settle (path.drop (rootOf path).length).reverse

/-- The directory that holds a path, empty for a name of its own; the root has none. -/
def parent? (path : String) : Option String :=
  let root := rootOf path.toList
  let body := settledBody path.toList
  if body = [] then if root = ['.'] then some "" else none
  else some (String.ofList (root ++ (settle (splitLast body).2).reverse))

/-- The last name of a path, if it is one. -/
def fileName? (path : String) : Option String :=
  let body := settledBody path.toList
  let name := (splitLast body).1.reverse
  if body = [] ∨ name = ['.', '.'] then none else some (String.ofList name)

example : parent? "/work/project/main.R" = some "/work/project" ∧ parent? "main.R" = some "" ∧
    parent? "/" = none ∧ parent? "." = some "" ∧ parent? "a/./b/" = some "a" := by
  decide +kernel

example : fileName? "./sub/../s.R" = some "s.R" ∧ fileName? "a/.." = none ∧
    fileName? "/" = none := by decide +kernel

end RStepper.Text.Path
