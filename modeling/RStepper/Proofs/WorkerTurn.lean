import RStepper.Worker

/-! Everything that one leg of a run can come to, and what the worker reports of it. -/

namespace RStepper
variable {σ : Type}

theorem Stack.length_locations (stack : Stack) : stack.locations.length = stack.depth := by
  simp [Stack.locations, Stack.depth]

/-- A report that a run can end with. -/
def Event.EndsRun : Event → Prop
  | .stopped stop => stop.reason ≠ .entry
  | .terminated | .failed _ => True
  | .evaluated .. | .variables .. => False

theorem Worker.endsRun_endReport (stopping : Bool) (failure : Failure) : (endReport stopping failure).EndsRun := by
  unfold endReport
  split <;> trivial

namespace Worker

theorem isRunning_iff {worker : Worker σ} : worker.isRunning = true ↔ ∃ run, worker.activity = .running run := by
  unfold isRunning
  cases worker.activity <;> simp

theorem hasEnded_iff {worker : Worker σ} : worker.hasEnded = true ↔ worker.activity = .ended := by
  unfold hasEnded
  cases worker.activity <;> simp

/-- What the worker makes of a leg. A failure that ends the session is kept back as long as the
interpreter owes an answer. -/
inductive Turns (stopping : Bool) (run : Run) : Except Failure Leg × Breakpoints × Debuggee σ → Turn σ → Prop where
  | goesOn {left moved} : Turns stopping run (.ok .goOn, left, moved) ⟨[], left, ⟨moved, .running run⟩⟩
  | arrives {reason left moved} (arrival : reason = .breakpoint ∨ reason = .step) :
      Turns stopping run (.ok (.arrived reason), left, moved)
        ⟨[moved.stack.stop reason none], run.leave left, ⟨moved, .idle⟩⟩
  | finishes {left moved} :
      Turns stopping run (.ok .finished, left, moved) ⟨[.terminated], run.leave left, ⟨moved, .ended⟩⟩
  | interrupts {failure left moved} (harmless : failure.isFatal = false) :
      Turns stopping run (.error failure, left, moved)
        ⟨[moved.stack.stop .exception (some failure.message)], run.leave left, ⟨moved, .idle⟩⟩
  | fails {failure left moved} (fatal : failure.isFatal = true) :
      Turns stopping run (.error failure, left, moved)
        ⟨[endReport stopping failure], run.leave left, ⟨moved, .ended⟩⟩
  | stalls {failure left moved} (fatal : failure.isFatal = true) (going : stopping = false) :
      Turns stopping run (.error failure, left, moved) ⟨[], run.leave left, ⟨moved, .stalled [.terminated]⟩⟩

/-- A leg is reported once if the run is over with it, and not at all if the run goes on or the
interpreter owes an answer. -/
theorem Turns.events_cases {stopping : Bool} {run : Run} {ended : Except Failure Leg × Breakpoints × Debuggee σ}
    {turn : Turn σ} (turns : Turns stopping run ended turn) :
    turn.events = [] ∨ ∃ event : Event, turn.events = [event] ∧ event.EndsRun := by
  cases turns with
  | goesOn | stalls => exact .inl rfl
  | arrives arrival => exact .inr ⟨_, rfl, by rcases arrival with rfl | rfl <;> exact nofun⟩
  | interrupts => exact .inr ⟨_, rfl, nofun⟩
  | finishes => exact .inr ⟨_, rfl, trivial⟩
  | fails => exact .inr ⟨_, rfl, endsRun_endReport ..⟩

/-- What a leg comes to at this depth once it is known whether the program stops at a breakpoint. -/
def arrive (run : Run) (depth : Nat) : Except Failure Bool → Except Failure Leg
  | .error failure => .error failure
  | .ok true => .ok (.arrived .breakpoint)
  | .ok false => .ok (if run.mode.stopsAt run.start depth then .arrived .step else .goOn)

variable [Interpreter σ]

theorem leg_eq (run : Run) (breakpoints : Breakpoints) (debuggee : Debuggee σ) :
    leg run breakpoints debuggee =
      match debuggee.advance with
      | (.error failure, moved) => (.error failure, breakpoints, moved)
      | (.ok moves, moved) =>
        if moves && moved.stack.hasNext then
          let (hit, left) := breakpoints.hit moved.stack.location
          let (stops, asked) := stopsHere hit moved
          (arrive run asked.stack.depth stops, left, asked)
        else (.ok .finished, breakpoints, moved) := by
  unfold leg
  rcases debuggee.advance with ⟨_ | moves, moved⟩
  · rfl
  · dsimp only
    split
    · rcases stopsHere (breakpoints.hit moved.stack.location).1 moved with ⟨_ | _ | _, asked⟩
      · rfl
      · dsimp only [arrive]
        split <;> rfl
      · rfl
    · rfl

theorem stack_stopsHere (hit : Option Hit) (debuggee : Debuggee σ) : (stopsHere hit debuggee).2.stack = debuggee.stack := by
  unfold stopsHere
  split <;> rfl

/-- A run goes on from where it came to only if neither a breakpoint nor its mode stopped it there. -/
theorem leg_goOn {run : Run} {breakpoints left : Breakpoints} {debuggee asked : Debuggee σ}
    (ran : leg run breakpoints debuggee = (.ok .goOn, left, asked)) :
    ∃ moved hit, debuggee.advance = (.ok true, moved) ∧ moved.stack.hasNext = true ∧
      breakpoints.hit moved.stack.location = (hit, left) ∧ stopsHere hit moved = (.ok false, asked) ∧
      run.mode.stopsAt run.start asked.stack.depth = false := by
  unfold leg at ran
  split at ran
  · cases ran
  next moves moved advanced =>
    split at ran
    next goes =>
      simp only [Bool.and_eq_true] at goes
      obtain ⟨rfl, hasNext⟩ := goes
      dsimp only at ran
      split at ran
      · cases ran
      · cases ran
      next behind stops =>
        split at ran
        · cases ran
        next passes =>
          cases ran
          exact ⟨moved, _, advanced, hasNext, rfl, stops, by simpa using passes⟩
    · cases ran

theorem leg_arrived {run : Run} {breakpoints left : Breakpoints} {debuggee moved : Debuggee σ} {reason : StopReason}
    (ran : leg run breakpoints debuggee = (.ok (.arrived reason), left, moved)) :
    reason = .breakpoint ∨ reason = .step := by
  unfold leg at ran
  split at ran
  · cases ran
  · split at ran
    · dsimp only at ran
      split at ran
      · cases ran
      · cases ran
        exact .inl rfl
      · split at ran <;> cases ran
        exact .inr rfl
    · cases ran

omit [Interpreter σ] in
/-- The last report of a session is sent, or it is kept back because the interpreter owes an answer. -/
theorem endWith_cases (stopping : Bool) (debuggee : Debuggee σ) (reports : List Event) (failure : Failure) :
    endWith stopping debuggee reports failure = (reports ++ [endReport stopping failure], ⟨debuggee, .ended⟩) ∨
      stopping = false ∧ endWith stopping debuggee reports failure = ([], ⟨debuggee, .stalled (reports ++ [.terminated])⟩) := by
  unfold endWith
  split
  next owed =>
    simp only [Bool.and_eq_true, Bool.not_eq_true'] at owed
    exact .inr ⟨owed.2, rfl⟩
  · exact .inl rfl

theorem step_turns (stopping : Bool) (run : Run) (breakpoints : Breakpoints) (debuggee : Debuggee σ) :
    Turns stopping run (leg run breakpoints debuggee) (step stopping run breakpoints debuggee) := by
  rcases ran : leg run breakpoints debuggee with ⟨failure | (_ | reason | _), left, moved⟩ <;> simp only [step, ran]
  · cases fatal : failure.isFatal with
    | false => exact .interrupts fatal
    | true =>
      rw [if_pos rfl]
      rcases endWith_cases stopping moved [] failure with sent | ⟨going, kept⟩
      · rw [sent]
        exact .fails fatal
      · rw [kept]
        exact .stalls fatal going
  · exact .goesOn
  · exact .arrives (leg_arrived ran)
  · exact .finishes

/-- What the worker makes of an inspection. -/
inductive Answers {α : Type} (stopping : Bool) (report : Except String α → Event) :
    Except Failure α × Debuggee σ → List Event × Worker σ → Prop where
  | tells {value debuggee} : Answers stopping report (.ok value, debuggee) ([report (.ok value)], ⟨debuggee, .idle⟩)
  | regrets {failure debuggee} (harmless : failure.isFatal = false) :
      Answers stopping report (.error failure, debuggee) ([report (.error failure.message)], ⟨debuggee, .idle⟩)
  | fails {failure debuggee} (fatal : failure.isFatal = true) :
      Answers stopping report (.error failure, debuggee)
        ([report (.error failure.message), endReport stopping failure], ⟨debuggee, .ended⟩)
  | stalls {failure debuggee} (fatal : failure.isFatal = true) (going : stopping = false) :
      Answers stopping report (.error failure, debuggee)
        ([], ⟨debuggee, .stalled [report (.error failure.message), .terminated]⟩)

omit [Interpreter σ] in
theorem answer_answers {α : Type} (stopping : Bool) (report : Except String α → Event)
    (outcome : Except Failure α × Debuggee σ) : Answers stopping report outcome (answer stopping report outcome) := by
  obtain ⟨failure | value, debuggee⟩ := outcome
  · unfold answer
    dsimp only
    cases fatal : failure.isFatal with
    | false => exact .regrets fatal
    | true =>
      rw [if_pos rfl]
      rcases endWith_cases stopping debuggee [report (.error failure.message)] failure with sent | ⟨going, kept⟩
      · rw [sent]
        exact .fails fatal
      · rw [kept]
        exact .stalls fatal going
  · exact .tells

end Worker
end RStepper
