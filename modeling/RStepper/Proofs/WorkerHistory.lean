import RStepper.Adapter.Session
import RStepper.Proofs.SentCommands
import RStepper.Proofs.WorkerTurn

/-! A worker from its start on: what it was asked, what it did and what it reported. A request is accepted
when the worker takes it up. A run then goes on leg by leg, and anything may come between two legs. -/

namespace RStepper
variable {σ : Type}

/-- An event, and whether the session was being ended from outside when it was sent. -/
structure Report where
  event : Event
  isStopping : Bool

/-- A request that was accepted, the program as it was then, and what was reported of the request. -/
structure Account (σ : Type) where
  request : Request
  before : Debuggee σ
  reports : List Report

structure Chronicle (σ : Type) where
  worker : Worker σ
  breakpoints : Breakpoints
  /-- The session is being ended from outside. -/
  isStopping : Bool
  /-- What was reported before any request. -/
  opening : List Event
  /-- The requests that were accepted, newest first. -/
  accounts : List (Account σ)
  /-- The legs since the last request. -/
  legs : Nat
  /-- The command that was sent last when the last leg was over. -/
  arrival : Option Sending

/-- What can happen to a worker. A request is for later unless the worker waits for one. -/
inductive Move where
  | request (request : Request)
  | leg
  /-- The breakpoints are changed from outside. -/
  | alter (breakpoints : Breakpoints)
  /-- The session is ended from outside. -/
  | shutdown
  /-- An answer that is still owed does not come, because the session is ended. -/
  | release

namespace Chronicle

def begin (source : String) (interpreter : σ) (breakpoints : Breakpoints) : Chronicle σ :=
  let started := Worker.start (.start source interpreter)
  ⟨started.2, breakpoints, false, started.1, [], 0, none⟩

def start (debuggee : Debuggee σ) (breakpoints : Breakpoints) : Chronicle σ :=
  let started := Worker.start debuggee
  ⟨started.2, breakpoints, false, started.1, [], 0, none⟩

def events (chronicle : Chronicle σ) : List Event :=
  chronicle.opening ++ chronicle.accounts.reverse.flatMap fun account => account.reports.map Report.event

def noted (events : List Event) (isStopping : Bool) : List (Account σ) → List (Account σ)
  | [] => []
  | newest :: older => { newest with reports := newest.reports ++ events.map (⟨·, isStopping⟩) } :: older

@[simp] theorem noted_nil (isStopping : Bool) (accounts : List (Account σ)) : noted [] isStopping accounts = accounts := by
  cases accounts <;> simp [noted]

theorem noted_append (events later : List Event) (isStopping : Bool) (accounts : List (Account σ)) :
    noted (events ++ later) isStopping accounts = noted later isStopping (noted events isStopping accounts) := by
  cases accounts <;> simp [noted]

def behind (chronicle : Chronicle σ) (turn : Turn σ) : Chronicle σ :=
  { chronicle with
    worker := turn.worker
    breakpoints := turn.breakpoints
    accounts := noted turn.events chronicle.isStopping chronicle.accounts }

theorem events_behind {chronicle : Chronicle σ} (turn : Turn σ) (asked : chronicle.accounts ≠ []) :
    (chronicle.behind turn).events = chronicle.events ++ turn.events := by
  cases accounts : chronicle.accounts with
  | nil => exact absurd accounts asked
  | cons newest older => simp [events, behind, noted, accounts, List.flatMap_append, Function.comp_def]

theorem noted_ne_nil {events : List Event} {isStopping : Bool} {accounts : List (Account σ)} (asked : accounts ≠ []) :
    noted events isStopping accounts ≠ [] := by
  cases accounts with
  | nil => exact asked
  | cons newest older => exact nofun

variable [Interpreter σ]

/-- Whether a failure is told of depends on the flag as the request read it, and this reading is the `isStopping` of the
report: a failure that is sent while the flag is being set, but was read of before, counts as sent before. -/
def move (chronicle : Chronicle σ) : Move → Chronicle σ
  | .request request =>
    match chronicle.worker.activity with
    | .idle =>
      let account : Account σ := ⟨request, chronicle.worker.debuggee, []⟩
      { chronicle with accounts := account :: chronicle.accounts, legs := 0 }.behind
        (Worker.take chronicle.isStopping chronicle.breakpoints request chronicle.worker.debuggee)
    | _ => chronicle
  | .leg =>
    match chronicle.worker.activity with
    | .running run =>
      let turn := Worker.step chronicle.isStopping run chronicle.breakpoints chronicle.worker.debuggee
      { chronicle with
        legs := chronicle.legs + 1
        arrival := turn.worker.debuggee.channel.sendings.getLast? }.behind turn
    | _ => chronicle
  | .alter breakpoints => { chronicle with breakpoints }
  | .shutdown => { chronicle with isStopping := true }
  | .release =>
    if chronicle.isStopping then
      let (events, worker) := chronicle.worker.release
      chronicle.behind ⟨events, chronicle.breakpoints, worker⟩
    else chronicle

def moved (chronicle : Chronicle σ) (moves : List Move) : Chronicle σ :=
  moves.foldl move chronicle

/-- What a beginning satisfies and every move keeps holds of all that is reached. -/
theorem moved_induction {motive : Chronicle σ → Prop} {chronicle : Chronicle σ} (initial : motive chronicle)
    (step : ∀ chronicle move, motive chronicle → motive (chronicle.move move)) (moves : List Move) :
    motive (chronicle.moved moves) := by
  induction moves generalizing chronicle with
  | nil => exact initial
  | cons move rest ih => exact ih (step chronicle move initial)

theorem moved_append (chronicle : Chronicle σ) (first later : List Move) :
    chronicle.moved (first ++ later) = (chronicle.moved first).moved later :=
  List.foldl_append ..

theorem move_request {chronicle : Chronicle σ} (idle : chronicle.worker.activity = .idle) (request : Request) :
    let account : Account σ := ⟨request, chronicle.worker.debuggee, []⟩
    chronicle.move (.request request) = { chronicle with accounts := account :: chronicle.accounts, legs := 0 }.behind
      (Worker.take chronicle.isStopping chronicle.breakpoints request chronicle.worker.debuggee) := by
  simp [move, idle]

theorem move_leg {chronicle : Chronicle σ} {run : Run} (running : chronicle.worker.activity = .running run) :
    let turn := Worker.step chronicle.isStopping run chronicle.breakpoints chronicle.worker.debuggee
    chronicle.move .leg = { chronicle with
      legs := chronicle.legs + 1
      arrival := turn.worker.debuggee.channel.sendings.getLast? }.behind turn := by
  simp [move, running]

theorem move_request_busy {chronicle : Chronicle σ} (busy : chronicle.worker.activity ≠ .idle) (request : Request) :
    chronicle.move (.request request) = chronicle := by
  unfold move
  cases activity : chronicle.worker.activity with
  | idle => exact absurd activity busy
  | running | stalled | ended => rfl

theorem move_leg_resting {chronicle : Chronicle σ} (resting : ∀ run, chronicle.worker.activity ≠ .running run) :
    chronicle.move .leg = chronicle := by
  unfold move
  cases activity : chronicle.worker.activity with
  | running run => exact absurd activity (resting run)
  | idle | stalled | ended => rfl

theorem moved_legs_resting {chronicle : Chronicle σ} (resting : chronicle.worker.isRunning = false) (count : Nat) :
    chronicle.moved (List.replicate count .leg) = chronicle := by
  have rests (run : Run) (running : chronicle.worker.activity = .running run) : False := by
    simp [Worker.isRunning_iff.mpr ⟨run, running⟩] at resting
  induction count with
  | zero => rfl
  | succ count ih =>
    change (chronicle.move .leg).moved (List.replicate count .leg) = chronicle
    rw [move_leg_resting rests, ih]

/-- A run is over after finitely many legs, and then it did what it does in one go. -/
theorem settle_legs (chronicle : Chronicle σ) :
    ∃ count, let later := chronicle.moved (List.replicate count .leg)
      let turn := Worker.settle chronicle.isStopping chronicle.breakpoints chronicle.worker
      later.worker = turn.worker ∧ later.breakpoints = turn.breakpoints ∧ later.worker.isRunning = false ∧
        later.accounts = noted turn.events chronicle.isStopping chronicle.accounts := by
  cases activity : chronicle.worker.activity with
  | idle | stalled | ended => exact ⟨0, by simp [moved, Worker.settle, Worker.isRunning, activity]⟩
  | running run =>
    let turn := Worker.step chronicle.isStopping run chronicle.breakpoints chronicle.worker.debuggee
    have first : (chronicle.move .leg).worker = turn.worker ∧ (chronicle.move .leg).breakpoints = turn.breakpoints ∧
        (chronicle.move .leg).isStopping = chronicle.isStopping ∧
        (chronicle.move .leg).accounts = noted turn.events chronicle.isStopping chronicle.accounts := by
      rw [move_leg activity]
      exact ⟨rfl, rfl, rfl, rfl⟩
    obtain ⟨worker, breakpoints, isStopping, accounts⟩ := first
    cases still : turn.worker.isRunning with
    | false =>
      have settled : Worker.settle chronicle.isStopping chronicle.breakpoints chronicle.worker = turn := by
        rw [Worker.settle]
        simp [activity, turn, still]
      rw [settled]
      exact ⟨1, worker, breakpoints, worker ▸ still, accounts⟩
    | true =>
      let rest := Worker.settle chronicle.isStopping turn.breakpoints turn.worker
      have settled : Worker.settle chronicle.isStopping chronicle.breakpoints chronicle.worker =
          { rest with events := turn.events ++ rest.events } := by
        rw [Worker.settle]
        simp [activity, turn, still, rest]
      have fewer : (chronicle.move .leg).worker.debuggee.stepsLeft < chronicle.worker.debuggee.stepsLeft :=
        worker ▸ Worker.stepsLeft_step_lt still
      obtain ⟨count, further⟩ := settle_legs (chronicle.move .leg)
      rw [worker, breakpoints, isStopping, accounts] at further
      obtain ⟨sameWorker, sameBreakpoints, resting, reported⟩ := further
      rw [settled]
      exact ⟨count + 1, sameWorker, sameBreakpoints, resting, reported.trans (noted_append ..).symm⟩
termination_by chronicle.worker.debuggee.stepsLeft

/-- Dealing with a request from beginning to end is accepting it and going on leg by leg. -/
theorem perform_moves {chronicle : Chronicle σ} (idle : chronicle.worker.activity = .idle) (request : Request) :
    ∃ count, let later := chronicle.moved (.request request :: List.replicate count .leg)
      let turn := chronicle.worker.perform chronicle.isStopping chronicle.breakpoints request
      later.worker = turn.worker ∧ later.breakpoints = turn.breakpoints ∧ later.accounts =
        ⟨request, chronicle.worker.debuggee, turn.events.map (⟨·, chronicle.isStopping⟩)⟩ :: chronicle.accounts := by
  let begun := Worker.take chronicle.isStopping chronicle.breakpoints request chronicle.worker.debuggee
  let account : Account σ := ⟨request, chronicle.worker.debuggee, []⟩
  have first : (chronicle.move (.request request)).worker = begun.worker ∧
      (chronicle.move (.request request)).breakpoints = begun.breakpoints ∧
      (chronicle.move (.request request)).isStopping = chronicle.isStopping ∧
      (chronicle.move (.request request)).accounts =
        noted begun.events chronicle.isStopping (account :: chronicle.accounts) := by
    rw [move_request idle]
    exact ⟨rfl, rfl, rfl, rfl⟩
  obtain ⟨worker, breakpoints, isStopping, accounts⟩ := first
  obtain ⟨count, further⟩ := settle_legs (chronicle.move (.request request))
  rw [worker, breakpoints, isStopping, accounts] at further
  obtain ⟨sameWorker, sameBreakpoints, _, reported⟩ := further
  refine ⟨count, ?_⟩
  simp only [Worker.perform, idle]
  exact ⟨sameWorker, sameBreakpoints, reported.trans (noted_append ..).symm⟩

theorem work_move {session later : Adapter.Session σ} {left : Breakpoints} {chronicle : Chronicle σ}
    (worked : session.work? chronicle.breakpoints = some (later, left)) (worker : chronicle.worker = session.worker)
    (isStopping : chronicle.isStopping = session.isStopping) :
    ∃ move, (chronicle.move move).worker = later.worker ∧ (chronicle.move move).breakpoints = left ∧
      (chronicle.move move).isStopping = later.isStopping := by
  cases Adapter.Session.work?_cases worked with
  | leg activity =>
    refine ⟨.leg, ?_⟩
    rw [move_leg (worker ▸ activity), worker, isStopping]
    exact ⟨rfl, rfl, rfl⟩
  | @takes request rest activity _ =>
    refine ⟨.request request, ?_⟩
    rw [move_request (worker ▸ activity), worker, isStopping]
    exact ⟨rfl, rfl, rfl⟩
  | releases activity stopping =>
    refine ⟨.release, ?_⟩
    rw [move, if_pos (isStopping.trans stopping), worker]
    exact ⟨rfl, rfl, isStopping⟩

end Chronicle
end RStepper
