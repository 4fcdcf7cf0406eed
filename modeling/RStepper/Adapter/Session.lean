import RStepper.Adapter.Body
import RStepper.Adapter.Wire
import RStepper.Worker

/-!
A session of the adapter: the worker with the requests that wait for it, and the forwarder that
tells the client what the worker reports.
-/

namespace RStepper.Adapter

/-- What the worker does besides writing the program's output. -/
inductive WorkerDeed where
  | report (event : Event)
  /-- Take no more requests. -/
  | close
  deriving Inhabited

/-- What the forwarder does besides writing. -/
inductive ForwarderDeed where
  /-- Let requests see the frames of a pause. -/
  | showFrames (frames : List Location)
  /-- Listen no longer. -/
  | hangUp
  deriving Inhabited

structure Session (σ : Type) where
  worker : Worker σ
  /-- The requests that the worker has not taken up. -/
  requests : List Request
  isOpen : Bool
  /-- The session is being ended from outside. -/
  isStopping : Bool
  /-- What the worker has in hand. -/
  tasks : List (Task WorkerDeed)
  /-- The client is shown what the program writes. -/
  showsOutput : Bool
  /-- What was reported and not forwarded. -/
  events : List Event
  isHeard : Bool
  /-- The client is told of the pause at the first statement. -/
  announcesEntry : Bool
  /-- What the forwarder has in hand. -/
  forwarding : List (Task ForwarderDeed)

/-- What the forwarder does about an event. -/
def forward (announcesEntry : Bool) : Event → List (Task ForwarderDeed)
  | .stopped stop =>
    .own (.showFrames stop.frames) ::
      if stop.reason = .entry ∧ !announcesEntry then []
      else [.write (.event "stopped" (some (Body.stopped stop)))]
  | .evaluated id answer => [.write (inspected id "evaluate" Body.evaluated answer)]
  | .variables id answer => [.write (inspected id "variables" Body.variableList answer)]
  | .terminated => [.write terminatedEvent, .own .hangUp]
  | .failed message =>
    [.write (.event "output" (some (Body.output "stderr" (message ++ "\n")))), .write terminatedEvent,
      .own .hangUp]

namespace Session
variable {σ : Type}

/-- What the worker does about its reports; one that has ended takes no more requests. -/
def reporting (events : List Event) (worker : Worker σ) : List (Task WorkerDeed) :=
  events.map (fun event => .own (.report event)) ++ if worker.hasEnded then [.own .close] else []

/-- A session that has just begun. Nobody listens to it yet. -/
def start (debuggee : Debuggee σ) (announcesEntry showsOutput : Bool) : Session σ :=
  let (events, worker) := Worker.start debuggee
  ⟨worker, [], true, false, reporting events worker, showsOutput, [], false, announcesEntry, []⟩

def isDone (session : Session σ) : Bool :=
  session.worker.hasEnded && session.tasks.isEmpty

/-- Nothing more will come of the session. -/
def isOver (session : Session σ) : Bool :=
  session.isDone && session.forwarding.isEmpty && (session.events.isEmpty || !session.isHeard)

def took (deed : WorkerDeed) (session : Session σ) : Session σ :=
  match deed with
  | .report event => { session with events := session.events ++ [event] }
  | .close => { session with isOpen := false }

/-- The session behind a turn of its worker: the output comes before the reports. -/
def behind (session : Session σ) (turn : Turn σ) : Session σ :=
  let before := session.worker.debuggee.channel.records.length
  let written := turn.worker.debuggee.channel.records.drop before
  let shown := if session.showsOutput then written.map fun record => .write (outputEvent record) else []
  { session with
    worker := turn.worker
    tasks := shown ++ reporting turn.events turn.worker }

theorem requests_behind (session : Session σ) (turn : Turn σ) :
    (session.behind turn).requests = session.requests := rfl

/-- The next event and what the forwarder does about it. -/
def forwardNext? (session : Session σ) : Option (Session σ) :=
  match session.events with
  | [] => none
  | event :: rest =>
    if session.isHeard then
      some { session with events := rest, forwarding := forward session.announcesEntry event }
    else none

variable [Interpreter σ]

/-- A turn of a worker that has nothing in hand: the next leg of a run, or the next request. -/
def work? (session : Session σ) (breakpoints : Breakpoints) : Option (Session σ × Breakpoints) :=
  match session.worker.activity with
  | .running run =>
    let turn := Worker.step session.isStopping run breakpoints session.worker.debuggee
    some (session.behind turn, turn.breakpoints)
  | .idle =>
    match session.requests with
    | [] => none
    | request :: rest =>
      let turn := Worker.take session.isStopping breakpoints request session.worker.debuggee
      some ({ session with requests := rest }.behind turn, turn.breakpoints)
  | .stalled _ =>
    if session.isStopping then
      let (events, worker) := session.worker.release
      some (session.behind ⟨events, breakpoints, worker⟩, breakpoints)
    else none
  | .ended => none

/-- All that a turn can be: a leg of the run, the request in front, or, once the session is to stop, the end of a wait
for an answer. -/
inductive Works (session : Session σ) (breakpoints : Breakpoints) : Session σ → Breakpoints → Prop where
  | leg {run} (activity : session.worker.activity = .running run) :
      Works session breakpoints
        (session.behind (Worker.step session.isStopping run breakpoints session.worker.debuggee))
        (Worker.step session.isStopping run breakpoints session.worker.debuggee).breakpoints
  | takes {request rest} (activity : session.worker.activity = .idle) (requests : session.requests = request :: rest) :
      Works session breakpoints
        ({ session with requests := rest }.behind (Worker.take session.isStopping breakpoints request session.worker.debuggee))
        (Worker.take session.isStopping breakpoints request session.worker.debuggee).breakpoints
  | releases {withheld} (activity : session.worker.activity = .stalled withheld) (stopping : session.isStopping = true) :
      Works session breakpoints (session.behind ⟨session.worker.release.1, breakpoints, session.worker.release.2⟩) breakpoints

theorem work?_cases {session later : Session σ} {breakpoints left : Breakpoints}
    (worked : session.work? breakpoints = some (later, left)) : session.Works breakpoints later left := by
  unfold work? at worked
  split at worked
  next run activity =>
    cases worked
    exact .leg activity
  next activity =>
    split at worked <;> cases worked
    next request rest requests => exact .takes activity requests
  next withheld activity =>
    split at worked <;> cases worked
    next stopping => exact .releases activity stopping
  next => cases worked

end Session
end RStepper.Adapter
