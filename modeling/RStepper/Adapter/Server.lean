import RStepper.Adapter.Session
import RStepper.Host

/-!
The server of the debug adapter. Three threads take turns: the request loop, the worker of the
session, and the forwarder. What a request asks for is a list of tasks of the loop; a step of the
server is one task of one thread, so that every order of their steps is a run of the server. A session
that is replaced by another one leaves its forwarder behind as a thread of its own.
-/

namespace RStepper.Adapter

/-- What the request loop does besides writing. -/
inductive LoopDeed (σ : Type) where
  | setBreakpoints (points : List (Int × Option String))
  /-- Answer a request with the frames of the last pause. -/
  | tellStack (number : Nat) (command : String)
  /-- Hand a request to the worker, and if it takes none, write a refusal. -/
  | submit (request : Request) (refusal : Option Content)
  /-- Wait for the worker of the session to be done. -/
  | awaitWorker
  /-- Begin a session; the one before it is let go. -/
  | adopt (debuggee : Debuggee σ) (stopsOnEntry showsOutput : Bool) (script : Option String)
  /-- Begin to forward what the worker reports. -/
  | listen
  /-- Begin to end the session. -/
  | stop
  /-- Wait for the session to be over. -/
  | join
  /-- Read no more requests. -/
  | leave

structure Server (σ : Type) where
  wire : Wire
  breakpoints : Breakpoints
  /-- The frames of the last pause that was forwarded. -/
  frames : List Location
  /-- The session, and those that it took the place of, newest first. Of these nothing is left but their
  forwarders. -/
  sessions : List (Session σ)
  script : Option String
  stopsOnEntry : Bool
  /-- What the request loop has in hand. -/
  tasks : List (Task (LoopDeed σ))
  isServing : Bool

inductive Actor where
  | loop
  | worker
  /-- The forwarder of a session, of the newest or of one before it. -/
  | forwarder (age : Nat)
  deriving DecidableEq, Repr

namespace Server
variable {σ : Type}

def fresh : Server σ :=
  ⟨.fresh, .empty, [], [], none, true, [], true⟩

def session (server : Server σ) : Option (Session σ) :=
  server.sessions.head?

def written (server : Server σ) : List Message :=
  server.wire.written

def mapSession (server : Server σ) (change : Session σ → Session σ) : Server σ :=
  { server with sessions := server.sessions.modifyHead change }

/-- Ends the session, if there is one, and waits for its end. -/
def shutdown : List (Task (LoopDeed σ)) :=
  [.own .stop, .own .join]

/-- Takes up a session that is prepared already. Its output is not shown to the client. -/
def attach (server : Server σ) (debuggee : Debuggee σ) (stopsOnEntry : Bool) : Server σ :=
  { server with
    tasks := server.tasks ++ [.own (.adopt debuggee stopsOnEntry false none), .own .listen] }

/-- A deed of the request loop: the tasks that it turns into, and the server behind it. Waiting takes
until there is nothing more to wait for. -/
def perform? (server : Server σ) : LoopDeed σ → Option (List (Task (LoopDeed σ)) × Server σ)
  | .setBreakpoints points =>
    some ([], { server with
      breakpoints := server.breakpoints.replaceLines Location.scriptName points })
  | .tellStack number command =>
    some ([.write (granted number command (some (Body.stack server.script server.frames)))], server)
  | .submit request refusal =>
    if server.session.any (·.isOpen) then
      some ([], server.mapSession fun session => { session with requests := session.requests ++ [request] })
    else some (refusal.toList.map .write, server)
  | .awaitWorker => if server.session.all (·.isDone) then some ([], server) else none
  | .adopt debuggee stopsOnEntry showsOutput script =>
    some ([], { server with
      sessions := .start debuggee stopsOnEntry showsOutput :: server.sessions
      stopsOnEntry
      script := script.or server.script })
  | .listen => some ([], server.mapSession fun session => { session with isHeard := true })
  | .stop =>
    some ([], server.mapSession fun session =>
      { session with isStopping := true, requests := session.requests ++ [.stop] })
  | .join => if server.session.all (·.isOver) then some ([], server) else none
  | .leave => some ([], { server with isServing := false })

/-- A deed turns into one message at most. -/
theorem stepsOf_perform?_le {server later : Server σ} {deed : LoopDeed σ}
    {more : List (Task (LoopDeed σ))} (performed : server.perform? deed = some (more, later)) :
    Task.stepsOf more ≤ 2 := by
  unfold perform? at performed
  split at performed
  · cases performed; simp
  · cases performed; simp [Task.steps]
  · split at performed
    · cases performed; simp
    next refusal _ => cases performed; cases refusal <;> simp [Task.steps]
  · split at performed <;> cases performed; simp
  · cases performed; simp
  · cases performed; simp
  · cases performed; simp
  · split at performed <;> cases performed; simp
  · cases performed; simp

def stepLoop? (server : Server σ) : Option (Server σ) :=
  match Task.next? server.wire server.tasks with
  | none => none
  | some (none, tasks, wire) => some { server with wire, tasks }
  | some (some deed, tasks, wire) =>
    let begun : Server σ := { server with wire }
    (begun.perform? deed).map fun (more, later) => { later with tasks := more ++ tasks }

def notice (server : Server σ) (session : Session σ) (deed : ForwarderDeed) : Server σ × Session σ :=
  match deed with
  | .showFrames frames => ({ server with frames }, session)
  | .hangUp => (server, { session with isHeard := false })

def forwarded? (server : Server σ) (session : Session σ) : Option (Server σ × Session σ) :=
  match Task.next? server.wire session.forwarding with
  | none => session.forwardNext?.map fun later => (server, later)
  | some (none, forwarding, wire) => some ({ server with wire }, { session with forwarding })
  | some (some deed, forwarding, wire) => some (notice { server with wire } { session with forwarding } deed)

/-- A step of the forwarder of the session of an age. -/
def stepForwarder? (server : Server σ) (age : Nat) : Option (Server σ) :=
  server.sessions[age]?.bind fun session =>
    (server.forwarded? session).map fun (later, after) => { later with sessions := server.sessions.set age after }

variable [Interpreter σ]

def stepWorker? (server : Server σ) : Option (Server σ) :=
  match server.sessions with
  | [] => none
  | session :: former =>
    match Task.next? server.wire session.tasks with
    | none => (session.work? server.breakpoints).map fun (later, breakpoints) =>
        { server with sessions := later :: former, breakpoints }
    | some (none, tasks, wire) => some { server with wire, sessions := { session with tasks } :: former }
    | some (some deed, tasks, wire) =>
      let begun : Session σ := { session with tasks }
      some { server with wire, sessions := begun.took deed :: former }

/-- A step of one thread, if it can take one. -/
def step? (server : Server σ) : Actor → Option (Server σ)
  | .loop => server.stepLoop?
  | .worker => server.stepWorker?
  | .forwarder age => server.stepForwarder? age

end Server
end RStepper.Adapter
