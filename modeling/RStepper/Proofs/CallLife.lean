import RStepper.Proofs.ReturnOutput

/-! The life of a call's frame. Whatever is done to it, in whatever order and whatever the interpreter says, it is paused at a
line until one step finishes it, and from then on nothing but its value is left, which can be taken once. -/

namespace RStepper.CallFrame
variable {σ : Type}

/-- Something done to a frame. A step has a channel of its own: anything may have happened to the interpreter between
two steps. -/
inductive Use (σ : Type) where
  | step (channel : Channel σ)
  | take
  | resume (line : Nat)
  /-- The frame above is gone. -/
  | comesUp

def Use.takes : Use σ → Bool
  | .take => true
  | .step _ | .resume _ | .comesUp => false

variable [Interpreter σ]

/-- The value that a use hands out, and the frame behind it. -/
def use (frame : CallFrame) : Use σ → Option String × CallFrame
  | .step channel => (none, (advance.runOver ⟨frame, .none, channel⟩).2.frame)
  | .take => frame.takeResult
  | .resume line => (none, frame.setReturnLine line)
  | .comesUp => (none, frame)

def after (frame : CallFrame) (uses : List (Use σ)) : CallFrame :=
  uses.foldl (fun frame use => (frame.use use).2) frame

def values (frame : CallFrame) : List (Use σ) → List String
  | [] => []
  | use :: rest => (frame.use use).1.toList ++ (frame.use use).2.values rest

@[simp] theorem after_nil (frame : CallFrame) : frame.after ([] : List (Use σ)) = frame := rfl

@[simp] theorem after_cons (frame : CallFrame) (use : Use σ) (rest : List (Use σ)) :
    frame.after (use :: rest) = (frame.use use).2.after rest := rfl

/-- The step over this channel finishes the frame, and this is the value: the output of the response that told of the
return, which has been printed, or none where an expression ended at a bare prompt. -/
inductive Finishes (frame : CallFrame) (channel : Channel σ) : String → Prop where
  | returns {response asked scene}
      (replied : (Talk.execute stepCommand).runOver channel = (.ok response, asked))
      (kind : response.kind ∈ [Kind.returned, .returnedMany])
      (ran : advance.runOver ⟨frame, .none, channel⟩ = (.ok (), scene))
      (printed : asked.records ++ Record.ofOutput response.output <+: scene.channel.records) :
      Finishes frame channel response.output
  | quiet {response asked}
      (replied : (Talk.execute stepCommand).runOver channel = (.ok response, asked))
      (kind : response.kind = .quiet) (single : frame.shape = .expression)
      (ran : advance.runOver ⟨frame, .none, channel⟩ = (.ok (), ⟨frame.returning "", .none, asked⟩)) :
      Finishes frame channel ""

theorem step_cases {frame : CallFrame} (sound : frame.Sound) (channel : Channel σ) :
    let stepped := (frame.use (.step channel)).2
    stepped.shape = frame.shape ∧
      (stepped.Sound ∨ ∃ value, frame.Finishes channel value ∧ stepped = frame.returning value) := by
  dsimp only [use]
  rcases ran : (advance : Act CallFrame σ Unit).runOver ⟨frame, .none, channel⟩ with ⟨failure | done, scene⟩
  · obtain ⟨shape, kept⟩ := advance_fails sound.isActive ran
    exact ⟨shape, .inl (kept sound)⟩
  · obtain ⟨response, asked, replied, steps⟩ := advance_steps sound.isActive ran
    cases steps with
    | stays kind same => exact ⟨same.shape, .inl (same.sound sound)⟩
    | enters kind callee => exact ⟨rfl, .inl sound⟩
    | @returns many line channel kind announced =>
      have returned : response.kind ∈ [Kind.returned, .returnedMany] := by cases many <;> simp [kind]
      obtain ⟨more, printed, _⟩ := returned_prints sound.isActive replied returned ran
      exact ⟨rfl, .inr ⟨response.output, .returns replied returned ran ⟨more, printed.symm⟩, rfl⟩⟩
    | finishes kind single => exact ⟨rfl, .inr ⟨"", .quiet replied kind single ran, rfl⟩⟩

theorem advance_of_inactive {scene : Scene CallFrame σ} (inactive : scene.frame.isActive = false) :
    (advance : Act CallFrame σ Unit).runOver scene = (.ok (), scene) := by
  unfold advance
  rw [Act.runOver_bind_frame, if_neg (by simp [inactive])]
  rfl

theorem use_cases {frame : CallFrame} (sound : frame.Sound) (use : Use σ) :
    (frame.use use).1 = none ∧ (frame.use use).2.shape = frame.shape ∧ ((frame.use use).2.Sound ∨
      ∃ channel value, use = .step channel ∧ frame.Finishes channel value ∧ (frame.use use).2 = frame.returning value) := by
  cases use with
  | step channel =>
    obtain ⟨shape, kept | ⟨value, finishes, finished⟩⟩ := step_cases sound channel
    · exact ⟨rfl, shape, .inl kept⟩
    · exact ⟨rfl, shape, .inr ⟨channel, value, rfl, finishes, finished⟩⟩
  | take =>
    have kept : frame.takeResult = (none, frame) := by
      obtain ⟨line, paused, _⟩ := sound
      rw [takeResult, paused]
    simp only [CallFrame.use, kept]
    exact ⟨trivial, trivial, .inl sound⟩
  | resume line => exact ⟨rfl, atLine_shape .., .inl (sound.atLine (Int.natCast_nonneg line))⟩
  | comesUp => exact ⟨rfl, rfl, .inl sound⟩

theorem use_of_returned {frame : CallFrame} {value : Option String} (returned : frame.status = .returned value)
    (use : Use σ) :
    (frame.use use).1 = (if use.takes then value else none) ∧
      (frame.use use).2 = { frame with status := .returned (if use.takes then none else value) } := by
  have same : frame = { frame with status := .returned value } := by rw [← returned]
  cases use with
  | step channel =>
    let scene : Scene CallFrame σ := ⟨frame, .none, channel⟩
    have inactive : scene.frame.isActive = false := by simp [scene, isActive, returned]
    refine ⟨rfl, ?_⟩
    change (advance.runOver scene).2.frame = _
    rw [advance_of_inactive inactive]
    exact same
  | take => simp [CallFrame.use, takeResult, returned, Use.takes]
  | resume line => exact ⟨rfl, by simpa [CallFrame.use, setReturnLine, atLine, returned, Use.takes] using same⟩
  | comesUp => exact ⟨rfl, same⟩

theorem after_of_returned {frame : CallFrame} {value : Option String} (returned : frame.status = .returned value)
    (uses : List (Use σ)) :
    frame.values uses = (if uses.any Use.takes then value.toList else []) ∧
      frame.after uses = { frame with status := .returned (if uses.any Use.takes then none else value) } := by
  induction uses generalizing frame value with
  | nil => exact ⟨rfl, by simp [← returned]⟩
  | cons use rest ih =>
    obtain ⟨handed, left⟩ := use_of_returned returned use
    obtain ⟨others, last⟩ := ih (congrArg CallFrame.status left)
    rw [values, after_cons, handed, others, last, left, List.any_cons]
    cases use.takes <;> simp

/-- What can have become of a paused call: it is paused, or one of the uses finished it and its value is there or taken. -/
inductive Course (frame : CallFrame) (uses : List (Use σ)) : Prop where
  | paused (sound : (frame.after uses).Sound) (kept : frame.values uses = [])
  | finished {earlier channel since value} (split : uses = earlier ++ .step channel :: since)
      (finishes : (frame.after earlier).Finishes channel value)
      (status : (frame.after uses).status = .returned (if since.any Use.takes then none else some value))
      (handed : frame.values uses = if since.any Use.takes then [value] else [])

theorem course {frame : CallFrame} (sound : frame.Sound) (uses : List (Use σ)) :
    (frame.after uses).shape = frame.shape ∧ frame.Course uses := by
  induction uses generalizing frame with
  | nil => exact ⟨rfl, .paused sound rfl⟩
  | cons use rest ih =>
    obtain ⟨none, shape, kept | ⟨channel, value, rfl, finishes, finished⟩⟩ := use_cases sound use
    · obtain ⟨same, course⟩ := ih kept
      refine ⟨same.trans shape, ?_⟩
      have handed : frame.values (use :: rest) = (frame.use use).2.values rest := by rw [values, none]; rfl
      cases course with
      | paused still empty => exact .paused still (handed.trans empty)
      | @finished earlier channel since value split finishes status taken =>
        have whole : use :: rest = (use :: earlier) ++ .step channel :: since := by rw [split]; rfl
        exact .finished whole finishes status (handed.trans taken)
    · obtain ⟨handed, last⟩ := after_of_returned (congrArg CallFrame.status finished) rest
      have shape : (frame.after (.step channel :: rest)).shape = frame.shape := by
        rw [after_cons, last]
        exact shape
      have whole : .step channel :: rest = [] ++ .step channel :: rest := rfl
      refine ⟨shape, .finished whole finishes ?_ ?_⟩
      · rw [after_cons, last]
      · rw [values, none, handed]
        rfl

namespace Course
variable {frame : CallFrame} {uses : List (Use σ)}

theorem sound_or_returned (course : frame.Course uses) :
    (frame.after uses).Sound ∨ ∃ value, (frame.after uses).status = .returned value := by
  cases course with
  | paused sound _ => exact .inl sound
  | finished _ _ status _ => exact .inr ⟨_, status⟩

theorem isActive_eq_false (course : frame.Course uses) :
    (frame.after uses).isActive = false ↔ (frame.after uses).location.line = -1 := by
  rcases course.sound_or_returned with ⟨line, paused, inRange, _⟩ | ⟨value, returned⟩
  · have stands : (frame.after uses).location.line = line := by simp [location, paused]
    rw [stands]
    exact iff_of_false (by simp [isActive, paused]) (by omega)
  · simp [isActive, location, returned, Location.noLine]

theorem line_of_expression (course : frame.Course uses) (active : (frame.after uses).isActive = true)
    (single : (frame.after uses).shape = .expression) : (frame.after uses).location.line = 1 := by
  rcases course.sound_or_returned with ⟨line, paused, _, first⟩ | ⟨value, returned⟩
  · simp only [location, paused, first single]
  · simp [isActive, returned] at active

theorem stays_finished (course : frame.Course uses) (inactive : (frame.after uses).isActive = false)
    (more : List (Use σ)) : ((frame.after uses).after more).isActive = false := by
  rcases course.sound_or_returned with sound | ⟨value, returned⟩
  · exact absurd sound.isActive (by simp [inactive])
  · rw [(after_of_returned returned more).2]
    rfl

theorem length_values_le (course : frame.Course uses) : (frame.values uses).length ≤ 1 := by
  cases course with
  | paused _ kept => simp [kept]
  | finished _ _ _ handed =>
    rw [handed]
    split <;> simp

/-- The value there is to take is that of the step that finished the frame. -/
theorem finishes_of_takeResult (course : frame.Course uses) {value : String}
    (taken : (frame.after uses).takeResult.1 = some value) :
    ∃ earlier channel since, uses = earlier ++ .step channel :: since ∧
      (frame.after earlier).Finishes channel value := by
  cases course with
  | paused sound _ =>
    obtain ⟨line, paused, _⟩ := sound
    simp [takeResult, paused] at taken
  | @finished earlier channel since own whole finishes status _ =>
    have same : own = value := by
      simp only [takeResult, status] at taken
      split at taken <;> cases taken
      rfl
    exact ⟨earlier, channel, since, whole, same ▸ finishes⟩

end Course

/-- The frame of a call, whatever was done to it since it started. It keeps its shape; it is finished where it stands at no
line, and stays so; a value is handed out at most once, and is that of the step that finished it. -/
theorem life_of_started {entry : Entry} {channel later : Channel σ} {frame : CallFrame}
    (started : (start entry).runOver channel = (.ok frame, later)) (uses : List (Use σ)) :
    let now := frame.after uses
    now.shape = entry.shape ∧ (now.isActive = false ↔ now.location.line = -1) ∧
    (now.isActive = true → now.shape = .expression → now.location.line = 1) ∧
    (now.isActive = false → (∀ more : List (Use σ), (now.after more).isActive = false) ∧
      ∀ scene : Scene CallFrame σ, scene.frame = now → advance.runOver scene = (.ok (), scene)) ∧
    (frame.values uses).length ≤ 1 ∧
    ∀ before behind value, uses = before ++ .take :: behind → (frame.after before).takeResult.1 = some value →
      ∃ earlier channel since, before = earlier ++ .step channel :: since ∧
        (frame.after earlier).Finishes channel value := by
  intro now
  obtain ⟨shape, sound⟩ := start_sound started
  obtain ⟨same, course⟩ := course sound uses
  refine ⟨same.trans shape, course.isActive_eq_false, course.line_of_expression, ?_, course.length_values_le, ?_⟩
  · intro inactive
    refine ⟨course.stays_finished inactive, fun scene stands => ?_⟩
    exact advance_of_inactive (stands ▸ inactive)
  · intro before behind value _ taken
    exact (CallFrame.course sound before).2.finishes_of_takeResult taken

/-- Moved before it returns and asked for its value twice behind that. -/
def innerUses : List (Use Scripted) :=
  [.resume 3, .step (aroundInner "" "[1] 7\n"), .take, .take]

theorem innerCall_life :
    let listing : Channel Scripted := .fresh ⟨[⟨"Filter(", .said "character(0)\nBrowse[1]> " ""⟩], [], 0⟩
    (∃ later, (start ⟨"g", .expression, default⟩).runOver listing = (.ok innerCall, later)) ∧
      (innerCall.after (innerUses.take 1)).location.line = 1 ∧ (innerCall.after innerUses).location.line = -1 ∧
      innerCall.values innerUses = ["[1] 7"] ∧
      (∀ more : List (Use Scripted), ((innerCall.after innerUses).after more).isActive = false) ∧
      ∃ earlier channel since, innerUses.take 2 = earlier ++ .step channel :: since ∧
        (innerCall.after earlier).Finishes channel "[1] 7" := by
  intro listing
  have answered : ((start ⟨"g", .expression, default⟩).runOver listing).1.toOption = some innerCall := by decide +kernel
  have started := eq_ok_of_toOption answered
  obtain ⟨_, _, first, _⟩ := life_of_started started (innerUses.take 1)
  obtain ⟨_, ended, _, left, _, taken⟩ := life_of_started started innerUses
  obtain ⟨inactive, active, values, value⟩ : (innerCall.after innerUses).isActive = false ∧
      (innerCall.after (innerUses.take 1)).isActive = true ∧ innerCall.values innerUses = ["[1] 7"] ∧
      (innerCall.after (innerUses.take 2)).takeResult.1 = some "[1] 7" := by decide +kernel
  exact ⟨⟨_, started⟩, first active rfl, ended.mp inactive, values, (left inactive).1, taken _ [.take] _ rfl value⟩

end RStepper.CallFrame
