import RStepper.Channel

/-!
Conversations use up the interpreter's patience and never add to it, and a step that was answered
takes some. This is what makes the loops of a stepping debugger end.
-/

namespace RStepper.Talk
variable {σ α β : Type}

@[simp] theorem runOver_pure (value : α) (channel : Channel σ) :
    (pure value : Talk σ α).runOver channel = (.ok value, channel) := rfl

@[simp] theorem runOver_throw (failure : Failure) (channel : Channel σ) :
    (throw failure : Talk σ α).runOver channel = (.error failure, channel) := rfl

theorem runOver_bind (talk : Talk σ α) (next : α → Talk σ β) (channel : Channel σ) :
    (talk >>= next).runOver channel =
      match talk.runOver channel with
      | (.ok value, later) => (next value).runOver later
      | (.error failure, later) => (.error failure, later) := by
  simp only [runOver, ExceptT.run_bind, StateT.run_bind]
  change (match talk.run.run channel with | (outcome, later) => _) = _
  rcases talk.run.run channel with ⟨outcome, later⟩
  cases outcome <;> rfl

theorem runOver_tryCatch (talk : Talk σ α) (handle : Failure → Talk σ α) (channel : Channel σ) :
    (tryCatch talk handle).runOver channel =
      match talk.runOver channel with
      | (.ok value, later) => (.ok value, later)
      | (.error failure, later) => (handle failure).runOver later := by
  rcases seen : talk.runOver channel with ⟨outcome, later⟩
  have ran : StateT.run talk channel = (outcome, later) := seen
  change (ExceptT.tryCatch talk handle).run.run channel = _
  simp only [ExceptT.tryCatch, ExceptT.run_mk, StateT.run_bind, ran]
  cases outcome <;> rfl

variable [Interpreter σ]

/-- No run of the conversation adds to the interpreter's patience. -/
def Thrifty (talk : Talk σ α) : Prop :=
  ∀ channel, (talk.runOver channel).2.patience ≤ channel.patience

theorem Thrifty.pure (value : α) : Thrifty (Pure.pure value : Talk σ α) :=
  fun _ => Nat.le_refl _

theorem Thrifty.throw (failure : Failure) : Thrifty (throw failure : Talk σ α) :=
  fun _ => Nat.le_refl _

theorem Thrifty.bind {talk : Talk σ α} {next : α → Talk σ β} (first : Thrifty talk)
    (rest : ∀ value, Thrifty (next value)) : Thrifty (talk >>= next) := by
  intro channel
  have spent := first channel
  rw [runOver_bind]
  rcases seen : talk.runOver channel with ⟨outcome, later⟩
  rw [seen] at spent
  cases outcome with
  | error failure => exact spent
  | ok value => exact Nat.le_trans (rest value later) spent

theorem Thrifty.tryCatch {talk : Talk σ α} {handle : Failure → Talk σ α} (first : Thrifty talk)
    (rest : ∀ failure, Thrifty (handle failure)) : Thrifty (tryCatch talk handle) := by
  intro channel
  have spent := first channel
  rw [runOver_tryCatch]
  rcases seen : talk.runOver channel with ⟨outcome, later⟩
  rw [seen] at spent
  cases outcome with
  | error failure => exact Nat.le_trans (rest failure later) spent
  | ok value => exact spent

@[simp] theorem patience_write (channel : Channel σ) (record : Record) :
    (channel.write record).patience = channel.patience := by
  unfold Channel.write
  split <;> rfl

theorem thrifty_emit (text : String) : Thrifty (emit text : Talk σ Unit) :=
  fun channel => Nat.le_of_eq (patience_write channel _)

theorem thrifty_report (text : String) : Thrifty (report text : Talk σ Unit) :=
  fun channel => Nat.le_of_eq (patience_write channel _)

theorem thrifty_receive (command body diagnostics : String) :
    Thrifty (receive command body diagnostics : Talk σ Response) := by
  unfold receive
  dsimp only
  split
  · exact .throw _
  · refine .bind (thrifty_report _) fun _ => ?_
    split
    · exact .throw _
    · exact .pure _

/-- One command is one question to the interpreter. -/
theorem runOver_execute (command : String) (channel : Channel σ) :
    (execute command : Talk σ Response).runOver channel =
      match (channel.ask command).1 with
      | .said body diagnostics => (receive command body diagnostics).runOver (channel.ask command).2
      | .closed => (.error (.channel command), (channel.ask command).2)
      | .pending => (.error (.channel command), (channel.ask command).2) := by
  unfold execute
  change (match (channel.ask command).1 with
    | .said body diagnostics => receive command body diagnostics
    | .closed => throw (.channel command)
    | .pending => throw (.channel command) : Talk σ Response).runOver (channel.ask command).2 = _
  cases (channel.ask command).1 <;> rfl

theorem patience_ask_le (channel : Channel σ) (command : String) :
    (channel.ask command).2.patience ≤ channel.patience :=
  Interpreter.patience_answer_le channel.interpreter command

theorem thrifty_execute (command : String) : Thrifty (execute command : Talk σ Response) := by
  intro channel
  rw [runOver_execute]
  have asked := patience_ask_le channel command
  split
  · exact Nat.le_trans (thrifty_receive _ _ _ _) asked
  · exact asked
  · exact asked

theorem thrifty_expecting (command : String) (expected : List Kind) :
    Thrifty (expecting command expected : Talk σ Response) := by
  refine .bind (thrifty_execute _) fun response => ?_
  split
  · exact .pure _
  · exact .throw _

/-- A step that got a response has taken some of the patience. -/
theorem patience_execute_lt {channel later : Channel σ} {response : Response}
    (ran : (execute stepCommand).runOver channel = (.ok response, later)) :
    later.patience < channel.patience := by
  rw [runOver_execute] at ran
  split at ran
  next body diagnostics said =>
    have spent := thrifty_receive stepCommand body diagnostics (channel.ask stepCommand).2
    rw [ran] at spent
    refine Nat.lt_of_le_of_lt spent (Interpreter.patience_step_lt channel.interpreter ?_)
    change (channel.ask stepCommand).1.isSaid = true
    rw [said]
    rfl
  all_goals cases ran

theorem patience_expecting_lt {channel later : Channel σ} {expected : List Kind}
    {response : Response}
    (ran : (expecting stepCommand expected).runOver channel = (.ok response, later)) :
    later.patience < channel.patience := by
  unfold expecting at ran
  rw [runOver_bind] at ran
  split at ran
  next value middle first =>
    have spent := patience_execute_lt first
    split at ran <;> cases ran
    exact spent
  next => cases ran

end RStepper.Talk
