import RStepper.Proofs.Conversation

/-! Everything a step can do to a call. A step that fails leaves the call paused with the same body;
one that succeeds moves it, enters a callee above it, or finishes it. -/

namespace RStepper
variable {σ α : Type}

theorem Position.lineNumber?_nonneg {announcement : List Char} {line : Int}
    (read : lineNumber? announcement = some line) : 0 ≤ line := by
  obtain ⟨rest, _, number⟩ := Option.bind_eq_some_iff.mp read
  have inRange := (Option.filter_eq_some_iff.mp number).2
  simp only [Bool.and_eq_true, decide_eq_true_eq] at inRange
  exact inRange.1

namespace CallFrame

/-- Paused at a line that the body has: any line of a block, and the first one of an expression. -/
def Sound (frame : CallFrame) : Prop :=
  ∃ line, frame.status = .paused line ∧ 0 ≤ line ∧ (frame.shape = .expression → line = 1)

theorem Sound.isActive {frame : CallFrame} (sound : frame.Sound) : frame.isActive = true := by
  obtain ⟨line, paused, _⟩ := sound
  simp [CallFrame.isActive, paused]

theorem sound_atEntry (shape : BodyShape) (name : String) : Sound ⟨shape, name, .paused 1⟩ :=
  ⟨1, rfl, by decide, fun _ => rfl⟩

theorem atLine_expression {frame : CallFrame} (single : frame.shape = .expression) (line : Int) :
    frame.atLine line = frame := by
  simp [atLine, single]

@[simp] theorem atLine_shape (frame : CallFrame) (line : Int) : (frame.atLine line).shape = frame.shape := by
  unfold atLine
  split <;> rfl

theorem Sound.atLine {frame : CallFrame} {line : Int} (sound : frame.Sound) (inRange : 0 ≤ line) :
    (frame.atLine line).Sound := by
  cases shape : frame.shape with
  | expression => rwa [atLine_expression shape]
  | block =>
    obtain ⟨old, paused, _⟩ := sound
    exact ⟨line, by simp [CallFrame.atLine, shape, paused], inRange, by simp [shape]⟩

@[simp] theorem atLine?_shape (frame : CallFrame) (line : Option Int) :
    (frame.atLine? line).shape = frame.shape := by
  cases line <;> simp [atLine?]

theorem Sound.atLine? {frame : CallFrame} {line : Option Int} (sound : frame.Sound)
    (inRange : ∀ number, line = some number → 0 ≤ number) : (frame.atLine? line).Sound := by
  cases line with
  | none => exact sound
  | some number => exact sound.atLine (inRange number rfl)

/-- The same call, still paused, with nothing asked of the stack. -/
structure Stays (before after : Scene CallFrame σ) : Prop where
  change : after.change = before.change
  shape : after.frame.shape = before.frame.shape
  sound : before.frame.Sound → after.frame.Sound

theorem Stays.refl (scene : Scene CallFrame σ) : Stays scene scene := ⟨rfl, rfl, id⟩

theorem Stays.trans {first middle last : Scene CallFrame σ} (begun : Stays first middle)
    (ended : Stays middle last) : Stays first last :=
  ⟨ended.change.trans begun.change, ended.shape.trans begun.shape, fun sound => ended.sound (begun.sound sound)⟩

theorem stays_frame : Act.Within (σ := σ) Stays (Act.frame : Act CallFrame σ CallFrame) := .refl

theorem stays_throw (failure : Failure) : Act.Within (σ := σ) Stays (throw failure : Act CallFrame σ α) := .refl

theorem stays_talk (conversation : Talk σ α) : Act.Within Stays (Act.talk conversation : Act CallFrame σ α) :=
  fun _ => ⟨rfl, rfl, id⟩

theorem stays_noted (response : Response) (scene : Scene CallFrame σ) : Stays scene (noted response scene) := by
  refine ⟨rfl, atLine?_shape _ _, fun sound => sound.atLine? ?_⟩
  intro number found
  obtain ⟨announcement, _, read⟩ := Option.bind_eq_some_iff.mp found
  exact Position.lineNumber?_nonneg read

variable [Interpreter σ]

theorem stays_pauseAt (response : Response) : Act.Within Stays (pauseAt response : Act CallFrame σ Unit) := by
  intro scene
  change Stays scene (pauseIn response scene).2
  fun_induction pauseIn response scene with
  | case1 response scene here loops next channel stepped ih =>
    have noted : Stays scene { here with channel } := .trans (stays_noted response scene) ⟨rfl, rfl, id⟩
    exact noted.trans ih
  | case2 response scene here loops failure channel stepped =>
    exact .trans (stays_noted response scene) ⟨rfl, rfl, id⟩
  | case3 response scene here => exact stays_noted response scene

theorem stays_pause (response : Response) :
    Act.Within Stays (do pauseAt response; Act.talk Instrument.loadFunctions : Act CallFrame σ Unit) :=
  .bind .trans (stays_pauseAt response) fun _ => stays_talk _

theorem stays_enter : Act.Within Stays (enter : Act CallFrame σ Unit) := by
  intro scene
  unfold enter
  refine Act.Within.bind .trans stays_frame (fun frame => ?_) scene
  cases frame.shape with
  | block =>
    exact .bind .trans (stays_talk _) fun response =>
      .bind .trans (stays_pauseAt response) fun _ => stays_talk _
  | expression =>
    refine .bind .trans (fun before => ?_) fun _ => stays_talk _
    exact ⟨rfl, rfl, fun _ => sound_atEntry _ _⟩

theorem stays_reenter (response : Response) : Act.Within Stays (reenter response : Act CallFrame σ Unit) := by
  have renamed (name : String) :
      Act.Within Stays (Act.modifyFrame fun frame => { frame with name } : Act CallFrame σ Unit) :=
    fun _ => ⟨rfl, rfl, id⟩
  refine .bind .trans (stays_talk _) fun _ => .bind .trans (stays_talk _) fun entry =>
    .bind .trans stays_frame fun frame => ?_
  split
  · exact .bind .trans (stays_throw _) fun _ => .bind .trans (renamed _) fun _ => stays_enter
  · exact .bind .trans (renamed _) fun _ => stays_enter

theorem start_sound {entry : Entry} {channel later : Channel σ} {callee : CallFrame}
    (started : (start entry).runOver channel = (.ok callee, later)) : callee.shape = entry.shape ∧ callee.Sound := by
  let scene : Scene CallFrame σ := ⟨⟨entry.shape, entry.name, .paused 1⟩, .none, channel⟩
  have kept := stays_enter scene
  change ((enter.runOver scene).1.map fun _ => (enter.runOver scene).2.frame, _) = _ at started
  rcases outcome : (enter.runOver scene).1 with failure | value <;> rw [outcome] at started
  · cases started
  · cases started
    exact ⟨kept.shape, kept.sound (sound_atEntry entry.shape entry.name)⟩

theorem ofCall_sound {channel later : Channel σ} {callee : CallFrame}
    (ran : (ofCall : Talk σ CallFrame).runOver channel = (.ok callee, later)) : callee.Sound := by
  obtain ⟨entry, middle, _, started⟩ := Talk.bind_ok ran
  exact (start_sound started).2

theorem returnLine_nonneg {response : Response} {channel later : Channel σ} {line : Option Int}
    (ran : (returnLine response).runOver channel = (.ok line, later)) : ∀ number, line = some number → 0 ≤ number := by
  have announced (announcement : Option (List Char)) (number : Int)
      (found : announcement.bind Position.lineNumber? = some number) : 0 ≤ number := by
    obtain ⟨_, _, read⟩ := Option.bind_eq_some_iff.mp found
    exact Position.lineNumber?_nonneg read
  unfold returnLine at ran
  dsimp only at ran
  split at ran
  · obtain ⟨next, middle, _, rest⟩ := Talk.bind_ok ran
    obtain ⟨_, last, _, done⟩ := Talk.bind_ok rest
    cases done
    intro number found
    rcases Option.or_eq_some_iff.mp found with behind | ⟨_, header⟩
    · exact announced _ number behind
    · exact announced _ number header
  · cases ran
    exact announced _

/-- The frames below the innermost one that its response takes along. -/
def droppedBy (response : Response) (many : Bool) : Nat :=
  if many then returnCount response - 1 else 0

theorem runOver_leave (response : Response) (many : Bool) (frame : CallFrame) (channel : Channel σ) :
    (leave response many).runOver ⟨frame, .none, channel⟩ =
      match (returnLine response).runOver (channel.write ⟨response.output, false⟩) with
      | (.ok line, later) => (.ok (), ⟨frame.returning response.output, ⟨[], droppedBy response many, line⟩, later⟩)
      | (.error failure, later) => (.error failure, ⟨frame, ⟨[], droppedBy response many, none⟩, later⟩) := by
  have resumed (dropped : Nat) (channel : Channel σ) :
      (do
        let line ← Act.talk (returnLine response)
        if line.isSome then
          Act.modifyChange fun change => { change with returnLine := line }
        Act.modifyFrame (·.returning response.output) : Act CallFrame σ Unit).runOver
          ⟨frame, ⟨[], dropped, none⟩, channel⟩ =
      match (returnLine response).runOver channel with
      | (.ok line, later) => (.ok (), ⟨frame.returning response.output, ⟨[], dropped, line⟩, later⟩)
      | (.error failure, later) => (.error failure, ⟨frame, ⟨[], dropped, none⟩, later⟩) := by
    rw [Act.runOver_bind_talk]
    rcases (returnLine response).runOver channel with ⟨_ | line, later⟩
    · rfl
    · cases line <;> rfl
  unfold leave
  rw [Act.runOver_bind_talk, Talk.runOver_emit]
  cases many with
  | false => exact resumed 0 _
  | true =>
    rw [if_pos rfl]
    dsimp only
    rw [Act.runOver_bind_modifyChange]
    exact resumed (returnCount response - 1) _

/-- What a step makes of a paused call, by its first response; `asked` is the channel behind that. -/
inductive Steps (top : CallFrame) (response : Response) (asked : Channel σ) : Scene CallFrame σ → Prop where
  | stays {scene}
      (kind : response.kind = .paused ∨ response.kind = .reentered ∨ response.kind = .quiet ∧ top.shape = .block)
      (same : Stays ⟨top, .none, asked⟩ scene) : Steps top response asked scene
  | enters {callee channel} (kind : response.kind = .entering) (sound : callee.Sound) :
      Steps top response asked ⟨top, ⟨[callee], 0, none⟩, channel⟩
  | returns {many line channel} (kind : response.kind = if many then .returnedMany else .returned)
      (announced : (returnLine response).runOver (asked.write ⟨response.output, false⟩) = (.ok line, channel)) :
      Steps top response asked ⟨top.returning response.output, ⟨[], droppedBy response many, line⟩, channel⟩
  | finishes (kind : response.kind = .quiet) (single : top.shape = .expression) :
      Steps top response asked ⟨top.returning "", .none, asked⟩

private theorem leave_steps {top : CallFrame} {response : Response} {asked : Channel σ} {scene : Scene CallFrame σ}
    (many : Bool) (kind : response.kind = if many then .returnedMany else .returned)
    (ran : (leave response many).runOver ⟨top, .none, asked⟩ = (.ok (), scene)) : Steps top response asked scene := by
  rw [runOver_leave] at ran
  split at ran
  next line later announced =>
    cases ran
    exact .returns kind announced
  next => cases ran

theorem follow_steps {top : CallFrame} {response : Response} {asked : Channel σ} {scene : Scene CallFrame σ}
    (ran : (follow response).runOver ⟨top, .none, asked⟩ = (.ok (), scene)) : Steps top response asked scene := by
  unfold follow at ran
  rw [Act.runOver_bind_frame] at ran
  cases kind : response.kind with
  | paused =>
    simp only [kind] at ran
    exact .stays (.inl kind) ((stays_pause response).of_run ran)
  | reentered =>
    simp only [kind] at ran
    exact .stays (.inr (.inl kind)) ((stays_reenter response).of_run ran)
  | entering =>
    simp only [kind] at ran
    obtain ⟨callee, middle, found, pushed⟩ := Act.bind_ok ran
    obtain ⟨channel, called, rfl⟩ := Act.talk_run found
    cases pushed
    exact .enters kind (ofCall_sound called)
  | returned =>
    simp only [kind] at ran
    exact leave_steps false kind ran
  | returnedMany =>
    simp only [kind] at ran
    exact leave_steps true kind ran
  | quiet =>
    simp only [kind] at ran
    cases shape : top.shape with
    | block =>
      simp only [shape] at ran
      cases ran
      exact .stays (.inr (.inr ⟨kind, shape⟩)) (.refl _)
    | expression =>
      simp only [shape] at ran
      cases ran
      exact .finishes kind shape
  | continuation | tracedBlock | tracedExpression | printed =>
    simp only [kind] at ran
    cases ran

private theorem leave_fails {top : CallFrame} {response : Response} {asked : Channel σ} {scene : Scene CallFrame σ}
    {many : Bool} {failure : Failure}
    (ran : (leave response many).runOver ⟨top, .none, asked⟩ = (.error failure, scene)) : scene.frame = top := by
  rw [runOver_leave] at ran
  split at ran <;> cases ran
  rfl

theorem follow_fails {top : CallFrame} {response : Response} {asked : Channel σ} {scene : Scene CallFrame σ}
    {failure : Failure} (ran : (follow response).runOver ⟨top, .none, asked⟩ = (.error failure, scene)) :
    scene.frame.shape = top.shape ∧ (top.Sound → scene.frame.Sound) := by
  have kept (same : Stays ⟨top, .none, asked⟩ scene) :
      scene.frame.shape = top.shape ∧ (top.Sound → scene.frame.Sound) := ⟨same.shape, same.sound⟩
  unfold follow at ran
  rw [Act.runOver_bind_frame] at ran
  cases kind : response.kind with
  | paused =>
    simp only [kind] at ran
    exact kept ((stays_pause response).of_run ran)
  | reentered =>
    simp only [kind] at ran
    exact kept ((stays_reenter response).of_run ran)
  | entering =>
    simp only [kind] at ran
    obtain missed | ⟨callee, middle, _, pushed⟩ := Act.bind_error ran
    · obtain ⟨channel, _, rfl⟩ := Act.talk_run missed
      exact ⟨rfl, id⟩
    · cases pushed
  | returned | returnedMany =>
    simp only [kind] at ran
    rw [leave_fails ran]
    exact ⟨rfl, id⟩
  | quiet =>
    simp only [kind] at ran
    cases shape : top.shape <;> simp only [shape] at ran <;> cases ran
  | continuation | tracedBlock | tracedExpression | printed =>
    simp only [kind] at ran
    cases ran
    exact ⟨rfl, id⟩

/-- A callee that is not found and a return whose line is not leave the call where it stood. -/
theorem follow_fails_in_place {top : CallFrame} {response : Response} {asked : Channel σ} {scene : Scene CallFrame σ}
    {failure : Failure} (kind : response.kind ∈ [Kind.entering, .returned, .returnedMany])
    (ran : (follow response).runOver ⟨top, .none, asked⟩ = (.error failure, scene)) : scene.frame = top := by
  unfold follow at ran
  rw [Act.runOver_bind_frame] at ran
  simp only [List.mem_cons, List.not_mem_nil, or_false] at kind
  rcases kind with kind | kind | kind <;> simp only [kind] at ran
  · obtain missed | ⟨callee, middle, _, pushed⟩ := Act.bind_error ran
    · obtain ⟨channel, _, rfl⟩ := Act.talk_run missed
      rfl
    · cases pushed
  · exact leave_fails ran
  · exact leave_fails ran

theorem runOver_advance {top : CallFrame} (active : top.isActive = true) (channel : Channel σ) :
    (advance : Act CallFrame σ Unit).runOver ⟨top, .none, channel⟩ =
      match (Talk.execute stepCommand).runOver channel with
      | (.ok response, asked) => (follow response).runOver ⟨top, .none, asked⟩
      | (.error failure, asked) => (.error failure, ⟨top, .none, asked⟩) := by
  unfold advance
  rw [Act.runOver_bind_frame, if_pos active, Act.runOver_bind_talk]
  rcases (Talk.execute stepCommand).runOver channel with ⟨_ | _, _⟩ <;> rfl

theorem advance_steps {top : CallFrame} {channel : Channel σ} {scene : Scene CallFrame σ}
    (active : top.isActive = true)
    (ran : (advance : Act CallFrame σ Unit).runOver ⟨top, .none, channel⟩ = (.ok (), scene)) :
    ∃ response asked, (Talk.execute stepCommand).runOver channel = (.ok response, asked) ∧
      Steps top response asked scene := by
  rw [runOver_advance active] at ran
  split at ran
  next response asked replied => exact ⟨response, asked, replied, follow_steps ran⟩
  next => cases ran

/-- A step that fails, wherever it does, leaves the call paused with the same body. -/
theorem advance_fails {top : CallFrame} {channel : Channel σ} {scene : Scene CallFrame σ} {failure : Failure}
    (active : top.isActive = true)
    (ran : (advance : Act CallFrame σ Unit).runOver ⟨top, .none, channel⟩ = (.error failure, scene)) :
    scene.frame.shape = top.shape ∧ (top.Sound → scene.frame.Sound) := by
  rw [runOver_advance active] at ran
  split at ran
  next => exact follow_fails ran
  next =>
    cases ran
    exact ⟨rfl, id⟩

end CallFrame
end RStepper
