import RStepper.Breakpoints

/-! Conditions that are watched where no breakpoint is. What a front end does to its breakpoints leaves them
in place or takes them away with the breakpoints, and a position that is reached is treated as without them,
but for the condition to be asked. -/

namespace RStepper

namespace Breakpoints

/-- The same breakpoints, and conditions at positions where there are none. -/
structure Extends (plain watched : Breakpoints) : Prop where
  temporary : watched.temporary = plain.temporary
  points : ∀ location, watched.find? location = plain.find? location ∨
    plain.find? location = none ∧ ∃ condition, watched.find? location = some ⟨location, some condition⟩

theorem Extends.refl (breakpoints : Breakpoints) : Extends breakpoints breakpoints :=
  ⟨rfl, fun _ => .inl rfl⟩

theorem find?_filter (breakpoints : Breakpoints) (keeps : Location → Bool) (location : Location) :
    ({ breakpoints with points := breakpoints.points.filter (keeps ·.location) } : Breakpoints).find? location =
      if keeps location then breakpoints.find? location else none := by
  unfold find?
  dsimp only
  rw [List.find?_filter]
  split
  next kept =>
    congr 1
    funext breakpoint
    by_cases here : breakpoint.location = location <;> simp [here, kept]
  next dropped =>
    rw [List.find?_eq_none]
    intro breakpoint _ found
    simp only [decide_eq_true_eq] at found
    exact dropped (found.2 ▸ found.1)

theorem find?_insert (breakpoints : Breakpoints) (breakpoint : Breakpoint) (location : Location) :
    (breakpoints.insert breakpoint).find? location =
      if breakpoint.location = location then some breakpoint else breakpoints.find? location := by
  have removed := breakpoints.find?_filter (· ≠ breakpoint.location) location
  unfold find? at removed ⊢
  by_cases here : breakpoint.location = location
  · simp [insert, here]
  · rw [if_pos (decide_eq_true (Ne.symm here))] at removed
    rw [if_neg here, ← removed]
    exact List.find?_cons_of_neg (by simpa using here)

variable {plain watched : Breakpoints}

theorem Extends.filter (extended : Extends plain watched) (keeps : Location → Bool) :
    Extends { plain with points := plain.points.filter (keeps ·.location) }
      { watched with points := watched.points.filter (keeps ·.location) } := by
  refine ⟨extended.temporary, fun location => ?_⟩
  rw [find?_filter, find?_filter]
  split
  · exact extended.points location
  · exact .inl rfl

theorem Extends.insert (extended : Extends plain watched) (breakpoint : Breakpoint) :
    Extends (plain.insert breakpoint) (watched.insert breakpoint) := by
  refine ⟨extended.temporary, fun location => ?_⟩
  rw [find?_insert, find?_insert]
  split
  · exact .inl rfl
  · exact extended.points location

theorem Extends.remove (extended : Extends plain watched) (location : Location) :
    Extends (plain.remove location) (watched.remove location) := by
  simpa [Breakpoints.remove] using extended.filter (· ≠ location)

theorem Extends.replaceLines (extended : Extends plain watched) (function : String)
    (lines : List (Int × Option String)) :
    Extends (plain.replaceLines function lines) (watched.replaceLines function lines) := by
  have filtered := extended.filter (·.function ≠ function)
  unfold Breakpoints.replaceLines
  generalize ({ plain with points := _ } : Breakpoints) = plain at filtered ⊢
  generalize ({ watched with points := _ } : Breakpoints) = watched at filtered ⊢
  induction lines generalizing plain watched with
  | nil => exact filtered
  | cons line rest ih => exact ih _ _ (filtered.insert _)

theorem Extends.setTemporary (extended : Extends plain watched) (location : Location) :
    Extends (plain.setTemporary location) (watched.setTemporary location) :=
  ⟨rfl, extended.points⟩

theorem Extends.clearTemporary (extended : Extends plain watched) :
    Extends plain.clearTemporary watched.clearTemporary :=
  ⟨rfl, extended.points⟩

/-- Reaching a position is the same, or a watched condition is to be asked there. -/
theorem Extends.hit (extended : Extends plain watched) (location : Location) :
    Extends (plain.hit location).2 (watched.hit location).2 ∧
      ((watched.hit location).1 = (plain.hit location).1 ∨
        (plain.hit location).1 = none ∧ ∃ condition, (watched.hit location).1 = some (.stopIf condition)) := by
  unfold Breakpoints.hit
  rw [extended.temporary]
  split
  · exact ⟨extended.clearTemporary, .inl rfl⟩
  · refine ⟨extended, ?_⟩
    rcases extended.points location with same | ⟨none, condition, found⟩
    · exact .inl (by rw [same])
    · exact .inr ⟨by rw [none]; rfl, condition, by rw [found]; rfl⟩

def watch (breakpoints : Breakpoints) (location : Location) (condition : String) : Breakpoints :=
  if breakpoints.contains location then breakpoints else breakpoints.addConditional location condition

theorem Extends.watch (extended : Extends plain watched) (location : Location) (condition : String) :
    Extends plain (watched.watch location condition) := by
  unfold Breakpoints.watch
  split
  · exact extended
  next free =>
    refine ⟨extended.temporary, fun other => ?_⟩
    rw [addConditional, find?_insert]
    split
    next here =>
      subst here
      have unset : watched.find? location = none := by simpa [contains] using free
      rcases extended.points location with same | ⟨none, _⟩
      · exact .inr ⟨same.symm.trans unset, condition, rfl⟩
      · exact .inr ⟨none, condition, rfl⟩
    next => exact extended.points other

/-- What a front end does to the breakpoints. -/
inductive Edit where
  | add (location : Location)
  | addConditional (location : Location) (condition : String)
  | remove (location : Location)
  | replaceLines (function : String) (lines : List (Int × Option String))
  | setTemporary (location : Location)
  | clearTemporary
  | clear
  | hit (location : Location)

def edit (breakpoints : Breakpoints) : Edit → Breakpoints
  | .add location => breakpoints.add location
  | .addConditional location condition => breakpoints.addConditional location condition
  | .remove location => breakpoints.remove location
  | .replaceLines function lines => breakpoints.replaceLines function lines
  | .setTemporary location => breakpoints.setTemporary location
  | .clearTemporary => breakpoints.clearTemporary
  | .clear => breakpoints.clear
  | .hit location => (breakpoints.hit location).2

theorem Extends.edit (extended : Extends plain watched) (edit : Edit) :
    Extends (plain.edit edit) (watched.edit edit) := by
  cases edit with
  | add | addConditional => exact extended.insert _
  | remove location => exact extended.remove location
  | replaceLines function lines => exact extended.replaceLines function lines
  | setTemporary location => exact extended.setTemporary location
  | clearTemporary => exact extended.clearTemporary
  | clear => exact .refl _
  | hit location => exact (extended.hit location).1

end Breakpoints

end RStepper
