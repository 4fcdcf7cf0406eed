import RStepper.Adapter.Framing
import RStepper.Adapter.Server
import RStepper.Launch.Reader

/-!
What the requests of a client ask for.
-/

namespace RStepper.Adapter.Server
variable {σ : Type}

/-- The settings in the arguments of a request; none at all ask for the standard ones. -/
def settingsIn (arguments : Option Json) : Except Launch.Fault Launch :=
  (arguments.map Launch.ofJson).getD (.ok .standard)

/-- Starts a session, ending the worker of the one before it. The client is told first, and then of what
the session reports. -/
def launching (host : Host σ) (number : Nat) (command : String) (arguments : Option Json) :
    List (Task (LoopDeed σ)) :=
  match settingsIn arguments with
  | .error fault =>
    [.write (refused number command ("Invalid launch arguments: " ++ fault.message))]
  | .ok launch =>
    match host.prepare launch with
    | .error failure => [.write (refused number command failure.message)]
    | .ok prepared =>
      [.own .stop, .own .awaitWorker,
        .own (.adopt prepared.debuggee launch.stopsOnEntry true (some launch.script)),
        .write (granted number command none), .own .listen]

/-- Runs the program on. The answer goes out before the run begins. -/
def running (server : Server σ) (number : Nat) (command : String) (mode : RunMode)
    (body : Option Json) : List (Task (LoopDeed σ)) :=
  if server.session.isSome then
    [.write (granted number command body), .own (.submit (.run mode) none)]
  else [.write (refused number command noSession)]

/-- Looks at the program. The answer comes from the worker, if it takes the request. -/
def inspecting (number : Nat) (command : String) (request : Request) : List (Task (LoopDeed σ)) :=
  [.own (.submit request (some (refused number command noSession)))]

/-- What a request asks the loop to do. -/
def tasksFor (host : Host σ) (server : Server σ) (number : Nat) (command : String)
    (arguments : Option Json) : List (Task (LoopDeed σ)) :=
  match command with
  | "initialize" =>
    [.write (granted number command (some Body.capabilities)), .write (.event "initialized" none)]
  | "launch" => launching host number command arguments
  | "setBreakpoints" =>
    let points := breakpointsIn arguments
    [.own (.setBreakpoints points), .write (granted number command (some (Body.breakpoints points)))]
  | "configurationDone" =>
    .write (granted number command none) ::
      if server.stopsOnEntry then [] else [.own (.submit (.run .resume) none)]
  | "threads" => [.write (granted number command (some Body.threads))]
  | "stackTrace" => [.own (.tellStack number command)]
  | "scopes" => [.write (granted number command (some (Body.scopes server.session.isSome)))]
  | "variables" => inspecting number command (.variables number)
  | "evaluate" =>
    match expressionIn? arguments with
    | some expression => inspecting number command (.evaluate number expression)
    | none => [.write (refused number command "Missing expression")]
  | "continue" => server.running number command .resume (some Body.continued)
  | "next" => server.running number command .next none
  | "stepIn" => server.running number command .into none
  | "stepOut" => server.running number command .out none
  | "disconnect" => shutdown ++ [.write (granted number command none), .own .leave]
  | "terminate" => shutdown ++ [.write (granted number command none), .own .leave]
  | _ => [.write (refused number command ("Unsupported request: " ++ command))]

/-- Takes a message in. Only requests ask for anything. -/
def receive (host : Host σ) (server : Server σ) (message : Message) : Server σ :=
  match message.isRequest, message.content with
  | true, .request command arguments =>
    { server with
      tasks := server.tasks ++ server.tasksFor host message.number command arguments }
  | _, _ => server

/-- The end of the input. -/
def finish (server : Server σ) : Server σ :=
  { server with tasks := server.tasks ++ shutdown ++ [.own .leave] }

/-- A fault of the input. Serving is given up at once, and nobody waits for the forwarder. -/
def abandon (server : Server σ) : Server σ :=
  { server with tasks := server.tasks ++ [.own .leave, .own .stop, .own .awaitWorker] }

end RStepper.Adapter.Server
