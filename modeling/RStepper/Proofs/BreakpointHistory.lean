import Mathlib.Data.List.Induction
import RStepper.Proofs.WatchedConditions

/-! What breakpoints there are is told by what was done to them. At a position the last operation that concerns it
decides, whatever else was done before and behind it, and a temporary breakpoint lasts until it is replaced, cleared, or
reached. -/

namespace RStepper

/-- Of the elements that matter, the last one is as wanted. -/
def LastOf {α : Type} (matters wanted : α → Prop) (list : List α) : Prop :=
  ∃ before last later, list = before ++ last :: later ∧ wanted last ∧ ∀ other ∈ later, ¬ matters other

namespace LastOf
variable {α : Type} {matters wanted : α → Prop}

theorem not_nil : ¬ LastOf matters wanted [] := by
  rintro ⟨before, last, later, split, _⟩
  simp at split

theorem concat_iff {list : List α} {last : α} :
    LastOf matters wanted (list ++ [last]) ↔ wanted last ∨ ¬ matters last ∧ LastOf matters wanted list := by
  constructor
  · rintro ⟨before, found, later, split, fits, passed⟩
    rcases List.eq_nil_or_concat later with rfl | ⟨later, other, rfl⟩
    · obtain ⟨-, same⟩ := List.append_inj' split rfl
      exact .inl (List.singleton_inj.mp same ▸ fits)
    · rw [List.concat_eq_append] at split passed
      have split : list ++ [last] = (before ++ found :: later) ++ [other] := by simpa using split
      obtain ⟨rfl, same⟩ := List.append_inj' split rfl
      obtain rfl := List.singleton_inj.mp same
      exact .inr ⟨passed _ (by simp), before, found, later, rfl, fits, fun one inside => passed one (by simp [inside])⟩
  · rintro (fits | ⟨idle, before, found, later, rfl, fits, passed⟩)
    · exact ⟨list, last, [], rfl, fits, nofun⟩
    · refine ⟨before, found, later ++ [last], by simp, fits, ?_⟩
      simpa [or_imp, forall_and] using ⟨passed, idle⟩

theorem insert_iff {element : α} (idle : ¬ matters element) (unwanted : ¬ wanted element) {before later : List α} :
    LastOf matters wanted (before ++ element :: later) ↔ LastOf matters wanted (before ++ later) := by
  induction later using List.reverseRecOn with
  | nil => rw [concat_iff, List.append_nil]; simp [idle, unwanted]
  | append_singleton later last ih =>
    rw [← List.cons_append, ← List.append_assoc, ← List.append_assoc, concat_iff, concat_iff, ih]

end LastOf

namespace Breakpoints

/-- The breakpoints behind some operations, of which there are none at first. -/
def after (history : List Edit) : Breakpoints :=
  history.foldl edit empty

theorem after_concat (history : List Edit) (last : Edit) : after (history ++ [last]) = (after history).edit last := by
  simp [after]

namespace Edit

/-- The function whose breakpoints the operation is about, if it is about one function's. -/
def function? : Edit → Option String
  | .add location | .addConditional location _ | .remove location => some location.function
  | .replaceLines function _ => some function
  | .setTemporary _ | .clearTemporary | .clear | .hit _ => none

/-- The operation says whether there is a breakpoint at the position. -/
def Concerns (location : Location) : Edit → Prop
  | .add other | .addConditional other _ | .remove other => other = location
  | .replaceLines function _ => function = location.function
  | .clear => True
  | .setTemporary _ | .clearTemporary | .hit _ => False

/-- The operation sets a breakpoint at the position, with this condition. Of several entries for a line the last counts. -/
def Sets (location : Location) (condition : Option String) : Edit → Prop
  | .add other => other = location ∧ condition = none
  | .addConditional other asked => other = location ∧ condition = some asked
  | .replaceLines function lines =>
    function = location.function ∧ LastOf (·.1 = location.line) (· = (location.line, condition)) lines
  | .remove _ | .setTemporary _ | .clearTemporary | .clear | .hit _ => False

/-- A temporary breakpoint at the position that was set before the operation is gone behind it. -/
def Supersedes (location : Location) : Edit → Prop
  | .setTemporary _ | .clearTemporary | .clear => True
  | .hit other => other = location
  | .add _ | .addConditional .. | .remove _ | .replaceLines .. => False

end Edit

/-- The last operation that concerns the position set a breakpoint there, with this condition. -/
def LastSet (history : List Edit) (location : Location) (condition : Option String) : Prop :=
  LastOf (Edit.Concerns location) (Edit.Sets location condition) history

/-- A temporary breakpoint was set at the position, and not replaced, cleared or hit since. -/
def Waits (history : List Edit) (location : Location) : Prop :=
  LastOf (Edit.Supersedes location) (· = .setTemporary location) history

theorem LastSet.concat_iff {history : List Edit} {last : Edit} {location : Location} {condition : Option String} :
    LastSet (history ++ [last]) location condition ↔
      last.Sets location condition ∨ ¬ last.Concerns location ∧ LastSet history location condition :=
  LastOf.concat_iff

theorem Waits.concat_iff {history : List Edit} {last : Edit} {location : Location} :
    Waits (history ++ [last]) location ↔
      last = .setTemporary location ∨ ¬ last.Supersedes location ∧ Waits history location :=
  LastOf.concat_iff

theorem replaceLines_concat (breakpoints : Breakpoints) (function : String) (lines : List (Int × Option String))
    (line : Int) (condition : Option String) :
    breakpoints.replaceLines function (lines ++ [(line, condition)]) =
      (breakpoints.replaceLines function lines).insert ⟨⟨function, line⟩, condition⟩ := by
  simp [replaceLines]

/-- Of the lines that replace a function's breakpoints, each takes the place of an earlier entry for it. -/
theorem find?_replaceLines {breakpoints : Breakpoints} {function : String} {lines : List (Int × Option String)}
    {location : Location} {condition : Option String} :
    (breakpoints.replaceLines function lines).find? location = some ⟨location, condition⟩ ↔
      if function = location.function then LastOf (·.1 = location.line) (· = (location.line, condition)) lines
      else breakpoints.find? location = some ⟨location, condition⟩ := by
  induction lines using List.reverseRecOn with
  | nil =>
    have kept := breakpoints.find?_filter (·.function ≠ function) location
    rw [replaceLines, List.foldl_nil, kept]
    by_cases own : function = location.function
    · simp [own, LastOf.not_nil]
    · simp [own, Ne.symm own]
  | append_singleton lines last ih =>
    obtain ⟨line, asked⟩ := last
    rw [replaceLines_concat, find?_insert, LastOf.concat_iff]
    obtain ⟨owner, number⟩ := location
    by_cases own : function = owner
    · subst own
      by_cases same : line = number
      · simp [same]
      · simp only [Location.mk.injEq, same, and_false, if_false, ih, if_true, Prod.mk.injEq, false_and, false_or,
          not_false_eq_true, true_and]
    · simp only [Location.mk.injEq, own, false_and, if_false, ih]

theorem location_of_find? {breakpoints : Breakpoints} {location : Location} {found : Breakpoint}
    (finds : breakpoints.find? location = some found) : found = ⟨location, found.condition⟩ := by
  obtain rfl : found.location = location := by simpa using List.find?_some finds
  rfl

theorem contains_iff {breakpoints : Breakpoints} {location : Location} :
    breakpoints.contains location = true ↔ ∃ condition, breakpoints.find? location = some ⟨location, condition⟩ := by
  rw [contains, Option.isSome_iff_exists]
  constructor
  · rintro ⟨found, finds⟩
    exact ⟨found.condition, location_of_find? finds ▸ finds⟩
  · rintro ⟨condition, finds⟩
    exact ⟨_, finds⟩

theorem find?_hit (breakpoints : Breakpoints) (reached location : Location) :
    (breakpoints.hit reached).2.find? location = breakpoints.find? location := by
  unfold hit
  split <;> rfl

theorem find?_eq_of_conditions {first second : Breakpoints} {location : Location} (same : ∀ condition,
    first.find? location = some ⟨location, condition⟩ ↔ second.find? location = some ⟨location, condition⟩) :
    first.find? location = second.find? location := by
  cases finds : first.find? location with
  | none =>
    cases other : second.find? location with
    | none => rfl
    | some found =>
      have back := (same found.condition).mpr (location_of_find? other ▸ other)
      rw [finds] at back
      cases back
  | some found =>
    have there := (same found.condition).mp (location_of_find? finds ▸ finds)
    rw [there, ← location_of_find? finds]

theorem hit_eq (breakpoints : Breakpoints) (location : Location) : (breakpoints.hit location).1 =
    if breakpoints.temporary = some location then some .stop else (breakpoints.find? location).map Breakpoint.hit := by
  unfold hit
  split <;> rfl

theorem asked_iff {breakpoints : Breakpoints} {location : Location} {condition : Option String} :
    (breakpoints.find? location).map Breakpoint.hit = some (condition.elim .stop .stopIf) ↔
      breakpoints.find? location = some ⟨location, condition⟩ := by
  cases finds : breakpoints.find? location with
  | none => simp
  | some found =>
    rw [location_of_find? finds]
    cases condition <;> cases own : found.condition <;> simp [Breakpoint.hit]

theorem find?_edit {breakpoints : Breakpoints} {edit : Edit} {location : Location} {condition : Option String} :
    (breakpoints.edit edit).find? location = some ⟨location, condition⟩ ↔
      edit.Sets location condition ∨ ¬ edit.Concerns location ∧ breakpoints.find? location = some ⟨location, condition⟩ := by
  cases edit with
  | add other | addConditional other asked =>
    by_cases here : other = location <;>
      simp [Breakpoints.edit, add, addConditional, find?_insert, Edit.Sets, Edit.Concerns, here, eq_comm]
  | remove other =>
    have kept := breakpoints.find?_filter (· ≠ other) location
    by_cases here : other = location
    · subst here
      simp_all [Breakpoints.edit, remove, Edit.Sets, Edit.Concerns]
    · simp_all [Breakpoints.edit, remove, Edit.Sets, Edit.Concerns, Ne.symm here]
  | replaceLines function lines =>
    by_cases own : function = location.function <;>
      simp [Breakpoints.edit, find?_replaceLines, Edit.Sets, Edit.Concerns, own]
  | setTemporary | clearTemporary =>
    simp [Breakpoints.edit, Edit.Sets, Edit.Concerns, setTemporary, clearTemporary, find?]
  | clear => simp [Breakpoints.edit, Edit.Sets, Edit.Concerns, clear, empty, find?]
  | hit other => simp [Breakpoints.edit, Edit.Sets, Edit.Concerns, find?_hit]

theorem temporary_replaceLines (breakpoints : Breakpoints) (function : String) (lines : List (Int × Option String)) :
    (breakpoints.replaceLines function lines).temporary = breakpoints.temporary := by
  induction lines using List.reverseRecOn with
  | nil => rfl
  | append_singleton lines last ih => rw [replaceLines_concat, insert, ih]

theorem temporary_edit {breakpoints : Breakpoints} {edit : Edit} {location : Location} :
    (breakpoints.edit edit).temporary = some location ↔
      edit = .setTemporary location ∨ ¬ edit.Supersedes location ∧ breakpoints.temporary = some location := by
  cases edit with
  | add | addConditional | remove =>
    simp [Breakpoints.edit, add, addConditional, insert, remove, Edit.Supersedes]
  | replaceLines function lines => simp [Breakpoints.edit, temporary_replaceLines, Edit.Supersedes]
  | setTemporary other => simp [Breakpoints.edit, setTemporary, Edit.Supersedes]
  | clearTemporary => simp [Breakpoints.edit, clearTemporary, Edit.Supersedes]
  | clear => simp [Breakpoints.edit, clear, empty, Edit.Supersedes]
  | hit other =>
    rw [Breakpoints.edit, hit]
    by_cases waits : breakpoints.temporary = some other
    · simp [waits, clearTemporary, Edit.Supersedes]
    · rw [if_neg waits]
      have apart (here : breakpoints.temporary = some location) : other ≠ location := fun same => waits (same ▸ here)
      simp [Edit.Supersedes]
      tauto

theorem find?_after {history : List Edit} {location : Location} {condition : Option String} :
    (after history).find? location = some ⟨location, condition⟩ ↔ LastSet history location condition := by
  induction history using List.reverseRecOn with
  | nil => simp [after, empty, find?, LastSet, LastOf.not_nil]
  | append_singleton history last ih => rw [after_concat, find?_edit, ih, LastSet.concat_iff]

theorem temporary_after {history : List Edit} {location : Location} :
    (after history).temporary = some location ↔ Waits history location := by
  induction history using List.reverseRecOn with
  | nil => simp [after, empty, Waits, LastOf.not_nil]
  | append_singleton history last ih => rw [after_concat, temporary_edit, ih, Waits.concat_iff]

theorem contains_after {history : List Edit} {location : Location} :
    (after history).contains location = true ↔ ∃ condition, LastSet history location condition := by
  simp only [contains_iff, find?_after]

/-- Behind a stop for the temporary breakpoint there is another such stop only if a temporary breakpoint was set anew. -/
theorem set_between_stops {history more : List Edit} {location other : Location} (waits : Waits history location)
    (again : Waits (history ++ .hit location :: more) other) : .setTemporary other ∈ more := by
  induction more using List.reverseRecOn with
  | nil =>
    rcases Waits.concat_iff.mp again with same | ⟨passed, before⟩
    · cases same
    · have here := temporary_after.mpr waits
      rw [temporary_after.mpr before] at here
      exact absurd (Option.some.inj here).symm passed
  | append_singleton more last ih =>
    rw [← List.cons_append, ← List.append_assoc] at again
    rcases Waits.concat_iff.mp again with rfl | ⟨_, before⟩
    · simp
    · exact List.mem_append_left _ (ih before)

theorem Edit.idle_of_function? {edit : Edit} {function : String} {location : Location} (own : edit.function? = some function)
    (elsewhere : function ≠ location.function) :
    (¬ edit.Concerns location ∧ ∀ condition, ¬ edit.Sets location condition) ∧
      ¬ edit.Supersedes location ∧ edit ≠ .setTemporary location := by
  have apart {other : Location} (same : some other.function = some function) : other ≠ location := by
    rintro rfl
    exact elsewhere (Option.some.inj same).symm
  cases edit with
  | add | addConditional | remove => simp [Concerns, Sets, Supersedes, apart own]
  | replaceLines =>
    obtain rfl := Option.some.inj own
    simp [Concerns, Sets, Supersedes, elsewhere]
  | setTemporary | clearTemporary | clear | hit => cases own

theorem after_other_function {edit : Edit} {function : String} {location : Location} (own : edit.function? = some function)
    (elsewhere : function ≠ location.function) (history later : List Edit) :
    (after (history ++ edit :: later)).find? location = (after (history ++ later)).find? location ∧
      ((after (history ++ edit :: later)).temporary = some location ↔
        (after (history ++ later)).temporary = some location) := by
  obtain ⟨⟨idle, unset⟩, kept, other⟩ := Edit.idle_of_function? own elsewhere
  refine ⟨find?_eq_of_conditions fun condition => ?_, ?_⟩
  · rw [find?_after, find?_after]
    exact LastOf.insert_iff idle (unset condition)
  · rw [temporary_after, temporary_after]
    exact LastOf.insert_iff kept other

/-- Whether there is a breakpoint at a position, and what is asked for when it is reached, is told by the last operations
that concern it. A temporary breakpoint goes first, and stops once for each time that one is set. Reaching a position
changes no breakpoint but that one, and an operation on one function's breakpoints changes nothing for another function. -/
theorem answers_by_history (history : List Edit) (location : Location) :
    let breakpoints := after history
    (breakpoints.contains location = true ↔ ∃ condition, LastSet history location condition) ∧
    ((breakpoints.hit location).1 = some .stop ↔ Waits history location ∨ LastSet history location none) ∧
    (∀ condition, (breakpoints.hit location).1 = some (.stopIf condition) ↔
      ¬ Waits history location ∧ LastSet history location (some condition)) ∧
    ((breakpoints.hit location).1 = none ↔
      ¬ Waits history location ∧ ∀ condition, ¬ LastSet history location condition) ∧
    (Waits history location → ∀ more other, Waits (history ++ .hit location :: more) other → .setTemporary other ∈ more) ∧
    (∀ reached, (breakpoints.hit reached).2.contains location = breakpoints.contains location) ∧
    ∀ edit function later, edit.function? = some function → function ≠ location.function →
      (after (history ++ edit :: later)).contains location = (after (history ++ later)).contains location ∧
      ((after (history ++ edit :: later)).hit location).1 = ((after (history ++ later)).hit location).1 := by
  intro breakpoints
  have asked (condition : Option String) :
      (breakpoints.find? location).map Breakpoint.hit = some (condition.elim .stop .stopIf) ↔
        LastSet history location condition := asked_iff.trans find?_after
  have answer : (Waits history location → (breakpoints.hit location).1 = some .stop) ∧
      (¬ Waits history location → (breakpoints.hit location).1 = (breakpoints.find? location).map Breakpoint.hit) := by
    rw [hit_eq, ← temporary_after]
    exact ⟨fun waits => if_pos waits, fun passed => if_neg passed⟩
  refine ⟨contains_after, ?_, fun condition => ?_, ?_, fun waits _ _ => set_between_stops waits, fun reached => ?_, ?_⟩
  · by_cases waits : Waits history location
    · simp [answer.1 waits, waits]
    · rw [answer.2 waits]
      exact (asked none).trans (by simp [waits])
  · by_cases waits : Waits history location
    · simp [answer.1 waits, waits]
    · rw [answer.2 waits]
      exact (asked (some condition)).trans (by simp [waits])
  · by_cases waits : Waits history location
    · simp [answer.1 waits, waits]
    · have found : breakpoints.find? location = none ↔ ¬ breakpoints.contains location = true := by
        simp [contains]
      rw [answer.2 waits, Option.map_eq_none_iff, found, contains_after]
      simp [waits]
  · rw [contains, contains, find?_hit]
  · intro edit function later own elsewhere
    obtain ⟨same, waiting⟩ := after_other_function own elsewhere history later
    rw [contains, contains, hit_eq, hit_eq, same]
    simp only [waiting, and_self]

/-- Lines of `f` are set, one of them twice, and the temporary breakpoint is set in `g` and then there. -/
def mixedEdits : List Edit :=
  [.add ⟨"f", 7⟩, .replaceLines "f" [(3, none), (5, none), (3, some "x > 2")], .setTemporary ⟨"g", 1⟩,
    .setTemporary ⟨"f", 3⟩, .hit ⟨"f", 5⟩, .remove ⟨"f", 5⟩]

/-- Behind the stop at line 3 its condition counts, and line 7 is gone. -/
example :
    let stopped := mixedEdits ++ [.hit ⟨"f", 3⟩]
    ((after stopped).hit ⟨"f", 3⟩).1 = some (.stopIf "x > 2") ∧ (after stopped).contains ⟨"f", 7⟩ = false := by decide

theorem mixedEdits_answers :
    let target : Location := ⟨"f", 3⟩
    let next : Location := ⟨"f", 5⟩
    let more := [Edit.remove target, .setTemporary next]
    let elsewhere := Edit.add ⟨"g", 3⟩
    (Waits mixedEdits target ∧ ((after mixedEdits).hit target).1 = some .stop) ∧
    (Waits (mixedEdits ++ .hit target :: more) next ∧ .setTemporary next ∈ more) ∧
    elsewhere.function? = some "g" ∧
      (after (mixedEdits ++ elsewhere :: [])).contains target = (after (mixedEdits ++ [])).contains target := by
  intro target next more elsewhere
  have waits : Waits mixedEdits target :=
    ⟨mixedEdits.take 3, _, mixedEdits.drop 4, rfl, rfl, by simp [mixedEdits, target, Edit.Supersedes]⟩
  have again : Waits (mixedEdits ++ .hit target :: more) next :=
    ⟨mixedEdits ++ [.hit target, .remove target], _, [], rfl, rfl, nofun⟩
  obtain ⟨_, stops, _, _, anew, _, apart⟩ := answers_by_history mixedEdits target
  exact ⟨⟨waits, stops.mpr (.inl waits)⟩, ⟨again, anew waits more next again⟩, rfl,
    (apart elsewhere "g" [] rfl (by decide)).1⟩

end Breakpoints
end RStepper
