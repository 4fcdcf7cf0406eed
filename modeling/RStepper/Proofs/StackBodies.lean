import RStepper.Adapter.Body

/-! What the client reads in the answer to a request for the stack. -/

namespace RStepper.Json

theorem insertField_perm {key : String} (value : Json) {fields : List (String × Json)}
    (new : ∀ field ∈ fields, field.1 ≠ key) : (insertField key value fields).Perm ((key, value) :: fields) := by
  induction fields with
  | nil => exact List.Perm.refl _
  | cons field rest ih =>
    obtain ⟨name, held⟩ := field
    obtain ⟨different, later⟩ := List.forall_mem_cons.mp new
    unfold insertField
    split
    · exact List.Perm.refl _
    · rw [if_neg fun same => different same.symm]
      exact ((ih later).cons _).trans (List.Perm.swap ..)

theorem find?_insertField (key other : String) (value : Json) (fields : List (String × Json)) :
    (insertField key value fields).find? (·.1 == other) =
      if key = other then some (key, value) else fields.find? (·.1 == other) := by
  induction fields with
  | nil => by_cases same : key = other <;> simp [insertField, same]
  | cons field rest ih =>
    obtain ⟨name, held⟩ := field
    unfold insertField
    split
    · by_cases same : key = other <;> simp [List.find?_cons, same]
    · split
      next replaced =>
        subst replaced
        by_cases same : key = other <;> simp [same]
      next different =>
        rw [List.find?_cons, ih]
        by_cases same : key = other
        · have passed : (name == other) = false := by simpa using fun named => different (same.trans named.symm)
          simp [same, passed]
        · simp only [List.find?_cons, same, if_false]

theorem field?_object_nil (key : String) : (object []).field? key = none := rfl

/-- Of the fields with one key the last one counts. -/
theorem field?_object_cons (name : String) (value : Json) (rest : List (String × Json)) (key : String) :
    (object ((name, value) :: rest)).field? key =
      ((object rest).field? key).or (if name = key then some value.ordered else none) := by
  change ((orderedFields ((name, value) :: rest)).find? _).map _ = (((orderedFields rest).find? _).map _).or _
  rw [orderedFields]
  split
  next again =>
    by_cases same : name = key
    · have found : ((orderedFields rest).find? (·.1 == key)).isSome = true := by
        obtain ⟨field, member, named⟩ := List.any_eq_true.mp again
        rw [List.find?_isSome]
        exact ⟨field, member, same ▸ named⟩
      obtain ⟨held, found⟩ := Option.isSome_iff_exists.mp found
      simp [found]
    · simp [same]
  next new =>
    rw [find?_insertField]
    by_cases same : name = key
    · have missing : (orderedFields rest).find? (·.1 == key) = none := by
        rw [List.find?_eq_none]
        intro field member named
        exact new (List.any_eq_true.mpr ⟨field, member, same ▸ named⟩)
      simp [same, missing]
    · simp [same]

theorem distinct_orderedFields (fields : List (String × Json)) : ((orderedFields fields).map Prod.fst).Nodup := by
  induction fields with
  | nil => exact List.nodup_nil
  | cons field rest ih =>
    rw [orderedFields]
    split
    · exact ih
    next new =>
      have unused : ∀ other ∈ orderedFields rest, other.1 ≠ field.1 := by
        intro other member named
        exact new (List.any_eq_true.mpr ⟨other, member, beq_iff_eq.mpr named⟩)
      rw [((insertField_perm field.2.ordered unused).map Prod.fst).nodup_iff, List.map_cons, List.nodup_cons]
      refine ⟨?_, ih⟩
      simpa using fun value member => unused (field.1, value) member rfl

theorem field?_object_of_distinct {fields : List (String × Json)} (distinct : (fields.map Prod.fst).Nodup) (key : String) :
    (object fields).field? key = ((obj fields).field? key).map ordered := by
  induction fields with
  | nil => rfl
  | cons field rest ih =>
    obtain ⟨name, value⟩ := field
    rw [List.map_cons, List.nodup_cons] at distinct
    rw [field?_object_cons, ih distinct.2]
    by_cases same : name = key
    · have missing : (obj rest).field? key = none := by
        rw [field?, Option.map_eq_none_iff, List.find?_eq_none]
        intro other member named
        refine distinct.1 (List.mem_map.mpr ⟨other, member, ?_⟩)
        rw [same]
        exact beq_iff_eq.mp named
      rw [missing, same]
      simp [field?]
    · simp [field?, same]

/-- Putting an object in order once more changes the values of its fields at most. -/
theorem field?_ordered_object (fields : List (String × Json)) (key : String) :
    (object fields).ordered.field? key = ((object fields).field? key).map ordered :=
  field?_object_of_distinct (distinct_orderedFields fields) key

theorem orderedItems_eq_map (items : List Json) : orderedItems items = items.map ordered := by
  induction items with
  | nil => rfl
  | cons item rest ih => rw [orderedItems, ih, List.map_cons]

end RStepper.Json

namespace RStepper.Adapter.Body

/-- A body tells of frames in their order and counts them from one. A line that is not known is told as zero. -/
structure Lists (body : Json) (frames : List Location) : Prop where
  total : body.field? "totalFrames" = some (.int frames.length)
  entries : ∃ entries : List Json, body.field? "stackFrames" = some (.arr entries) ∧ entries.length = frames.length ∧
    ∀ (index : Nat) (frame : Location), frames[index]? = some frame → ∃ entry : Json, entries[index]? = some entry ∧
      entry.field? "id" = some (.int (index + 1 : Nat)) ∧ entry.field? "name" = some (.str frame.function) ∧
      entry.field? "line" = some (.int (max frame.line 0))

theorem stackFrame_ordered (script : Option String) (frame : Location) (index : Nat) :
    let entry := (stackFrame script frame index).ordered
    entry.field? "id" = some (.int (index + 1 : Nat)) ∧ entry.field? "name" = some (.str frame.function) ∧
      entry.field? "line" = some (.int (max frame.line 0)) := by
  have origin : ∃ value, (if frame.isInScript then script.toList.map fun path => ("source", source path) else []) = [] ∨
      (if frame.isInScript then script.toList.map fun path => ("source", source path) else []) = [("source", value)] := by
    cases script with
    | none => exact ⟨.null, .inl (by simp)⟩
    | some path =>
      refine ⟨source path, ?_⟩
      split
      · exact .inr rfl
      · exact .inl rfl
  obtain ⟨value, origin⟩ := origin
  simp only [stackFrame, Json.field?_ordered_object]
  rcases origin with none | one
  · rw [none]
    simp [Json.field?_object_cons, Json.field?_object_nil, Json.ordered]
  · rw [one]
    simp [Json.field?_object_cons, Json.field?_object_nil, Json.ordered]

theorem lists_stack (script : Option String) (frames : List Location) : Lists (stack script frames) frames where
  total := by simp [stack, Json.field?_object_cons, Json.field?_object_nil, Json.ordered]
  entries := by
    refine ⟨(frames.zipIdx.map (Function.uncurry (stackFrame script))).map Json.ordered, ?_, ?_, ?_⟩
    · simp [stack, Json.field?_object_cons, Json.field?_object_nil, Json.ordered, Json.orderedItems_eq_map]
    · simp
    · intro index frame found
      refine ⟨(stackFrame script frame index).ordered, ?_, stackFrame_ordered script frame index⟩
      simp [List.getElem?_zipIdx, found]

end RStepper.Adapter.Body
