import RStepper.Frame.Patience

/-! Taking runs apart. A conversation or an act that went well is a chain of parts that went well,
and one that failed is such a chain up to the part that failed. -/

namespace RStepper
variable {φ σ α β : Type}

section Runs
variable {state : Type} {first : ExceptT Failure (StateM state) α}
  {next : α → ExceptT Failure (StateM state) β} {before later : state}

private theorem run_bind : (first >>= next).run.run before =
    match first.run.run before with
    | (.ok value, middle) => (next value).run.run middle
    | (.error failure, middle) => (.error failure, middle) := by
  simp only [ExceptT.run_bind, StateT.run_bind]
  change (match first.run.run before with | (outcome, later) => _) = _
  rcases first.run.run before with ⟨_ | _, _⟩ <;> rfl

private theorem run_bind_ok {value : β} (ran : (first >>= next).run.run before = (.ok value, later)) :
    ∃ begun middle, first.run.run before = (.ok begun, middle) ∧
      (next begun).run.run middle = (.ok value, later) := by
  rw [run_bind] at ran
  rcases seen : first.run.run before with ⟨_ | begun, middle⟩ <;> rw [seen] at ran
  · cases ran
  · exact ⟨begun, middle, rfl, ran⟩

private theorem run_bind_error {failure : Failure}
    (ran : (first >>= next).run.run before = (.error failure, later)) :
    first.run.run before = (.error failure, later) ∨
      ∃ begun middle, first.run.run before = (.ok begun, middle) ∧
        (next begun).run.run middle = (.error failure, later) := by
  rw [run_bind] at ran
  rcases seen : first.run.run before with ⟨_ | begun, middle⟩ <;> rw [seen] at ran
  · cases ran
    exact .inl rfl
  · exact .inr ⟨begun, middle, rfl, ran⟩

end Runs

namespace Talk

theorem bind_ok {talk : Talk σ α} {next : α → Talk σ β} {channel later : Channel σ} {value : β}
    (ran : (talk >>= next).runOver channel = (.ok value, later)) :
    ∃ first middle, talk.runOver channel = (.ok first, middle) ∧
      (next first).runOver middle = (.ok value, later) :=
  run_bind_ok ran

theorem bind_error {talk : Talk σ α} {next : α → Talk σ β} {channel later : Channel σ} {failure : Failure}
    (ran : (talk >>= next).runOver channel = (.error failure, later)) :
    talk.runOver channel = (.error failure, later) ∨
      ∃ first middle, talk.runOver channel = (.ok first, middle) ∧
        (next first).runOver middle = (.error failure, later) :=
  run_bind_error ran

@[simp] theorem runOver_emit (text : String) (channel : Channel σ) :
    (emit text).runOver channel = (.ok (), channel.write ⟨text, false⟩) := rfl

variable [Interpreter σ]

theorem execute_ok {command : String} {channel later : Channel σ} {response : Response}
    (ran : (execute command).runOver channel = (.ok response, later)) :
    ∃ body diagnostics, (channel.ask command).1 = .said body diagnostics ∧
      Response.classify (command ++ "\n" ++ body) = some response := by
  rw [runOver_execute] at ran
  split at ran
  next body diagnostics said =>
    refine ⟨body, diagnostics, said, ?_⟩
    unfold receive at ran
    dsimp only at ran
    split at ran
    · cases ran
    next found classified =>
      obtain ⟨_, middle, _, rest⟩ := bind_ok ran
      split at rest
      · cases rest
      · cases rest
        exact classified
  all_goals cases ran

theorem execute_said {command body diagnostics : String} {channel : Channel σ} {response : Response}
    (said : (channel.ask command).1 = .said body diagnostics)
    (classified : Response.classify (command ++ "\n" ++ body) = some response)
    (clean : Diagnostics.runtimeError diagnostics = none) :
    ((execute command).runOver channel).1 = .ok response := by
  rw [runOver_execute, said]
  dsimp only [receive]
  rw [classified, clean]
  rfl

theorem expecting_said {command body diagnostics : String} {expected : List Kind} {channel : Channel σ}
    {response : Response} (said : (channel.ask command).1 = .said body diagnostics)
    (classified : Response.classify (command ++ "\n" ++ body) = some response)
    (clean : Diagnostics.runtimeError diagnostics = none) (placed : response.kind ∈ expected) :
    ((expecting command expected).runOver channel).1 = .ok response := by
  have executed := execute_said said classified clean
  rw [expecting, runOver_bind]
  rcases ran : (execute command).runOver channel with ⟨failure | found, later⟩ <;> rw [ran] at executed <;> cases executed
  dsimp only
  rw [if_pos placed]
  rfl

end Talk

namespace Act

theorem bind_ok {act : Act φ σ α} {next : α → Act φ σ β} {scene later : Scene φ σ} {value : β}
    (ran : (act >>= next).runOver scene = (.ok value, later)) :
    ∃ first middle, act.runOver scene = (.ok first, middle) ∧
      (next first).runOver middle = (.ok value, later) :=
  run_bind_ok ran

theorem bind_error {act : Act φ σ α} {next : α → Act φ σ β} {scene later : Scene φ σ} {failure : Failure}
    (ran : (act >>= next).runOver scene = (.error failure, later)) :
    act.runOver scene = (.error failure, later) ∨
      ∃ first middle, act.runOver scene = (.ok first, middle) ∧
        (next first).runOver middle = (.error failure, later) :=
  run_bind_error ran

theorem talk_run {conversation : Talk σ α} {scene later : Scene φ σ} {outcome : Except Failure α}
    (ran : (talk conversation : Act φ σ α).runOver scene = (outcome, later)) :
    ∃ channel, conversation.runOver scene.channel = (outcome, channel) ∧
      later = { scene with channel } := by
  rw [runOver_talk] at ran
  cases ran
  exact ⟨_, rfl, rfl⟩

@[simp] theorem runOver_bind_talk (conversation : Talk σ α) (next : α → Act φ σ β) (scene : Scene φ σ) :
    (talk conversation >>= next).runOver scene =
      match conversation.runOver scene.channel with
      | (.ok value, channel) => (next value).runOver { scene with channel }
      | (.error failure, channel) => (.error failure, { scene with channel }) := by
  rw [runOver_bind, runOver_talk]
  rcases conversation.runOver scene.channel with ⟨_ | _, _⟩ <;> rfl

@[simp] theorem runOver_bind_frame (next : φ → Act φ σ β) (scene : Scene φ σ) :
    (frame >>= next).runOver scene = (next scene.frame).runOver scene := rfl

@[simp] theorem runOver_bind_modifyFrame (update : φ → φ) (next : Unit → Act φ σ β) (scene : Scene φ σ) :
    (modifyFrame update >>= next).runOver scene =
      (next ()).runOver { scene with frame := update scene.frame } := rfl

@[simp] theorem runOver_bind_modifyChange (update : StackChange → StackChange) (next : Unit → Act φ σ β)
    (scene : Scene φ σ) :
    (modifyChange update >>= next).runOver scene =
      (next ()).runOver { scene with change := update scene.change } := rfl

/-- Whatever comes of the act, it leaves a scene that `allowed` admits. -/
def Within (allowed : Scene φ σ → Scene φ σ → Prop) (act : Act φ σ α) : Prop :=
  ∀ scene, allowed scene (act.runOver scene).2

variable {allowed : Scene φ σ → Scene φ σ → Prop}

theorem Within.of_run {act : Act φ σ α} (within : Within allowed act) {scene later : Scene φ σ}
    {outcome : Except Failure α} (ran : act.runOver scene = (outcome, later)) : allowed scene later := by
  have kept := within scene
  rwa [ran] at kept

theorem Within.bind (trans : ∀ {first middle last}, allowed first middle → allowed middle last → allowed first last)
    {act : Act φ σ α} {next : α → Act φ σ β} (first : Within allowed act)
    (rest : ∀ value, Within allowed (next value)) : Within allowed (act >>= next) := by
  intro scene
  have begun := first scene
  rw [runOver_bind]
  rcases seen : act.runOver scene with ⟨_ | value, middle⟩ <;> rw [seen] at begun
  · exact begun
  · exact trans begun (rest value middle)

end Act
end RStepper
