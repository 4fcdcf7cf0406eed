import RStepper.Breakpoints
import RStepper.Stack.Progress
import RStepper.Worker.Event

/-!
The worker that runs a session. It takes one request at a time. A run goes on leg by leg, a leg
being one step of the innermost frame and the question whether the program stops there. When the
session is ended from outside, an answer that the interpreter still owes never comes; the worker
then ends as if the program had.
-/

namespace RStepper

/-- A run in progress: its mode, the depth it started at, and whether it has a target of its own. -/
structure Run where
  mode : RunMode
  start : Nat
  hasTarget : Bool
  deriving DecidableEq, Repr, Inhabited

/-- The breakpoints behind a run, which takes its target along. -/
def Run.leave (run : Run) (breakpoints : Breakpoints) : Breakpoints :=
  if run.hasTarget then breakpoints.clearTemporary else breakpoints

/-- What the worker is doing. -/
inductive Activity where
  /-- Waiting for a request. -/
  | idle
  | running (run : Run)
  /-- Waiting for an answer that the interpreter does not give; the events are for when the session
  is ended from outside. -/
  | stalled (withheld : List Event)
  | ended
  deriving Inhabited

/-- The program being debugged and what the worker does with it. -/
structure Worker (σ : Type) where
  debuggee : Debuggee σ
  activity : Activity

/-- What a turn of the worker leaves behind. -/
structure Turn (σ : Type) where
  events : List Event
  breakpoints : Breakpoints
  worker : Worker σ

/-- The end of a leg. -/
inductive Leg where
  | goOn
  | arrived (reason : StopReason)
  | finished
  deriving DecidableEq, Repr

namespace Worker
variable {σ α : Type}

def isRunning (worker : Worker σ) : Bool :=
  match worker.activity with
  | .running _ => true
  | _ => false

def hasEnded (worker : Worker σ) : Bool :=
  match worker.activity with
  | .ended => true
  | _ => false

/-- The worker as it begins, and what it reports before any request: the program stands at its first
statement, or it has none. -/
def start (debuggee : Debuggee σ) : List Event × Worker σ :=
  if debuggee.stack.hasNext then ([debuggee.stack.stop .entry none], ⟨debuggee, .idle⟩)
  else ([.terminated], ⟨debuggee, .ended⟩)

/-- The report of a failure that ends the session. If the session is being ended from outside, the
failure is nothing but its end. -/
def endReport (stopping : Bool) (failure : Failure) : Event :=
  if stopping then .terminated else .failed failure.message

/-- Reports a failure that ends the session, or keeps the events back while the interpreter still
owes its answer. -/
def endWith (stopping : Bool) (debuggee : Debuggee σ) (reports : List Event) (failure : Failure) :
    List Event × Worker σ :=
  if debuggee.channel.isStalled && !stopping then
    ([], ⟨debuggee, .stalled (reports ++ [endReport true failure])⟩)
  else (reports ++ [endReport stopping failure], ⟨debuggee, .ended⟩)

/-- Reports the outcome of an inspection; a fatal failure ends the session too. -/
def answer (stopping : Bool) (report : Except String α → Event)
    (outcome : Except Failure α × Debuggee σ) : List Event × Worker σ :=
  match outcome with
  | (.ok value, debuggee) => ([report (.ok value)], ⟨debuggee, .idle⟩)
  | (.error failure, debuggee) =>
    let reports := [report (.error failure.message)]
    if failure.isFatal then endWith stopping debuggee reports failure
    else (reports, ⟨debuggee, .idle⟩)

variable [Interpreter σ]

/-- Whether the program stops at a breakpoint where it is. Conditions are asked at the pause. -/
def stopsHere (hit : Option Hit) (debuggee : Debuggee σ) : Except Failure Bool × Debuggee σ :=
  match hit with
  | none => (.ok false, debuggee)
  | some .stop => (.ok true, debuggee)
  | some (.stopIf condition) => debuggee.during (Inspect.conditionHolds condition)

def leg (run : Run) (breakpoints : Breakpoints) (debuggee : Debuggee σ) :
    Except Failure Leg × Breakpoints × Debuggee σ :=
  match debuggee.advance with
  | (.error failure, moved) => (.error failure, breakpoints, moved)
  | (.ok moves, moved) =>
    if moves && moved.stack.hasNext then
      let (hit, left) := breakpoints.hit moved.stack.location
      match stopsHere hit moved with
      | (.error failure, asked) => (.error failure, left, asked)
      | (.ok true, asked) => (.ok (.arrived .breakpoint), left, asked)
      | (.ok false, asked) =>
        if run.mode.stopsAt run.start asked.stack.depth then (.ok (.arrived .step), left, asked)
        else (.ok .goOn, left, asked)
    else (.ok .finished, breakpoints, moved)

def step (stopping : Bool) (run : Run) (breakpoints : Breakpoints) (debuggee : Debuggee σ) : Turn σ :=
  match leg run breakpoints debuggee with
  | (.ok .goOn, left, moved) => ⟨[], left, ⟨moved, .running run⟩⟩
  | (.ok (.arrived reason), left, moved) =>
    ⟨[moved.stack.stop reason none], run.leave left, ⟨moved, .idle⟩⟩
  | (.ok .finished, left, moved) => ⟨[.terminated], run.leave left, ⟨moved, .ended⟩⟩
  | (.error failure, left, moved) =>
    if failure.isFatal then
      let (events, worker) := endWith stopping moved [] failure
      ⟨events, run.leave left, worker⟩
    else
      ⟨[moved.stack.stop .exception (some failure.message)], run.leave left, ⟨moved, .idle⟩⟩

theorem stepsLeft_leg_lt {run : Run} {breakpoints left : Breakpoints} {debuggee moved : Debuggee σ}
    (ran : leg run breakpoints debuggee = (.ok .goOn, left, moved)) :
    moved.stepsLeft < debuggee.stepsLeft := by
  unfold leg at ran
  split at ran
  · cases ran
  next moves after stepped =>
    split at ran
    next goes =>
      simp only [Bool.and_eq_true] at goes
      have fewer := Debuggee.stepsLeft_advance_lt stepped goes.1 goes.2
      dsimp only at ran
      split at ran
      · cases ran
      · cases ran
      next asked seen =>
        split at ran
        · cases ran
        · cases ran
          refine Nat.lt_of_le_of_lt ?_ fewer
          unfold stopsHere at seen
          split at seen
          · cases seen; exact Nat.le_refl _
          · cases seen
          next condition _ =>
            have spent := Inspect.thrifty_conditionHolds condition after.channel
            unfold Debuggee.during at seen
            rcases found : (Inspect.conditionHolds condition : Talk σ Bool).runOver after.channel
              with ⟨outcome, channel⟩
            rw [found] at seen spent
            cases seen
            exact Nat.add_le_add_right spent _
    · cases ran

theorem stepsLeft_step_lt {stopping : Bool} {run : Run} {breakpoints : Breakpoints}
    {debuggee : Debuggee σ} (still : (step stopping run breakpoints debuggee).worker.isRunning = true) :
    (step stopping run breakpoints debuggee).worker.debuggee.stepsLeft < debuggee.stepsLeft := by
  have ends (failure : Failure) (moved : Debuggee σ) :
      (endWith stopping moved [] failure).2.isRunning = false := by
    unfold endWith
    split <;> rfl
  unfold step at still ⊢
  split at still
  next left moved ran => exact stepsLeft_leg_lt ran
  · cases still
  · cases still
  next failure left moved ran =>
    split at still
    · exact absurd still (by simp [ends])
    · cases still

/-- Goes on with a run until it is over. -/
def settle (stopping : Bool) (breakpoints : Breakpoints) (worker : Worker σ) : Turn σ :=
  match worker.activity with
  | .running run =>
    let turn := step stopping run breakpoints worker.debuggee
    if _still : turn.worker.isRunning then
      let rest := settle stopping turn.breakpoints turn.worker
      { rest with events := turn.events ++ rest.events }
    else turn
  | _ => ⟨[], breakpoints, worker⟩
termination_by worker.debuggee.stepsLeft
decreasing_by exact stepsLeft_step_lt _still

/-- Takes up a request. Inspections and the request to stop are done at once; runs are begun. -/
def take (stopping : Bool) (breakpoints : Breakpoints) (request : Request) (debuggee : Debuggee σ) :
    Turn σ :=
  match request with
  | .run mode => ⟨[], breakpoints, ⟨debuggee, .running ⟨mode, debuggee.stack.depth, false⟩⟩⟩
  | .runTo target =>
    ⟨[], breakpoints.setTemporary target,
      ⟨debuggee, .running ⟨.resume, debuggee.stack.depth, true⟩⟩⟩
  | .evaluate id expression =>
    let (events, worker) :=
      answer stopping (.evaluated id) (debuggee.during (Inspect.evaluate expression))
    ⟨events, breakpoints, worker⟩
  | .variables id =>
    let (events, worker) := answer stopping (.variables id) (debuggee.during Inspect.visible)
    ⟨events, breakpoints, worker⟩
  | .stop => ⟨[], breakpoints, ⟨debuggee, .ended⟩⟩

def perform (stopping : Bool) (breakpoints : Breakpoints) (request : Request)
    (worker : Worker σ) : Turn σ :=
  match worker.activity with
  | .idle =>
    let begun := take stopping breakpoints request worker.debuggee
    let rest := settle stopping begun.breakpoints begun.worker
    { rest with events := begun.events ++ rest.events }
  | _ => ⟨[], breakpoints, worker⟩

/-- Ends the session from outside: an answer still owed counts as a closed channel. -/
def release (worker : Worker σ) : List Event × Worker σ :=
  match worker.activity with
  | .stalled withheld => (withheld, { worker with activity := .ended })
  | _ => ([], worker)

end Worker
end RStepper
