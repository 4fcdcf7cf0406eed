import RStepper.Adapter.Handling

/-!
Serving a client that waits, before it says more, until everything that its last message led to is
written: each message is taken in, and then the threads take their steps until none of them can.
They come to that point, because every step leaves less to do.
-/

namespace RStepper.Adapter
variable {σ : Type} [Interpreter σ]

/-- What a worker has to do before it rests: the rest of a run, or its end. -/
def legsLeft (worker : Worker σ) : Nat :=
  match worker.activity with
  | .idle => 0
  | .running _ => worker.debuggee.stepsLeft + 2
  | .stalled _ => 1
  | .ended => 0

theorem legsLeft_le_one {worker : Worker σ} (resting : worker.isRunning = false) :
    legsLeft worker ≤ 1 := by
  unfold legsLeft
  unfold Worker.isRunning at resting
  split <;> simp_all

namespace Session

/-- What is left to do for the forwarder. An event makes fewer than eight steps. -/
def leftToTell (session : Session σ) : Nat :=
  8 * session.events.length + Task.stepsOf session.forwarding

/-- What is left to do for the worker, the weightiest first: requests to be taken up, legs to be run, and
tasks. -/
def leftToWork (session : Session σ) : Nat × Nat × Nat :=
  (session.requests.length, legsLeft session.worker, Task.stepsOf session.tasks)

/-- Less is left of one triple than of another, the weightiest part deciding. -/
def Less : Nat × Nat × Nat → Nat × Nat × Nat → Prop :=
  Prod.Lex (· < ·) (Prod.Lex (· < ·) (· < ·))

theorem leftToWork_work?_lt {session later : Session σ} {breakpoints left : Breakpoints}
    (worked : session.work? breakpoints = some (later, left)) :
    Less later.leftToWork session.leftToWork := by
  cases work?_cases worked with
  | @leg run running =>
    refine .right _ (.left _ _ ?_)
    have full : legsLeft session.worker = session.worker.debuggee.stepsLeft + 2 := by
      simp [legsLeft, running]
    rw [full]
    by_cases still :
        (Worker.step session.isStopping run breakpoints session.worker.debuggee).worker.isRunning = true
    · have fewer := Worker.stepsLeft_step_lt still
      have same : legsLeft (Worker.step session.isStopping run breakpoints
          session.worker.debuggee).worker = (Worker.step session.isStopping run breakpoints
            session.worker.debuggee).worker.debuggee.stepsLeft + 2 := by
        unfold Worker.isRunning at still
        unfold legsLeft
        split at still
        next again => rw [again]
        · cases still
      change legsLeft (Worker.step _ run breakpoints session.worker.debuggee).worker < _
      omega
    · have few := legsLeft_le_one (Bool.eq_false_iff.2 still)
      change legsLeft (Worker.step _ run breakpoints session.worker.debuggee).worker < _
      omega
  | takes idle asked =>
    refine .left _ _ ?_
    simp [requests_behind, asked]
  | releases stalled =>
    refine .right _ (.left _ _ ?_)
    change legsLeft (Worker.release session.worker).2 < legsLeft session.worker
    simp [legsLeft, Worker.release, stalled]

omit [Interpreter σ] in
theorem stepsOf_forward_lt (announcesEntry : Bool) (event : Event) :
    Task.stepsOf (forward announcesEntry event) < 8 := by
  cases event with
  | stopped stop =>
    simp only [forward, Task.stepsOf_cons]
    split <;> simp [Task.steps]
  | _ => simp [forward, Task.steps]

omit [Interpreter σ] in
theorem leftToTell_forwardNext?_lt {session later : Session σ}
    (forwarded : session.forwardNext? = some later) (idle : session.forwarding = []) :
    later.leftToTell < session.leftToTell := by
  unfold forwardNext? at forwarded
  split at forwarded
  · cases forwarded
  next event rest heard =>
    split at forwarded
    · cases forwarded
      have few := stepsOf_forward_lt session.announcesEntry event
      simp only [leftToTell, heard, idle, List.length_cons, Task.stepsOf_nil]
      omega
    · cases forwarded

end Session

namespace Server

/-- What all forwarders have left to tell. -/
def leftToTell : List (Session σ) → Nat
  | [] => 0
  | session :: former => session.leftToTell + leftToTell former

/-- What is left to do: first for the request loop, then for the worker, and then for all forwarders. -/
def remaining (server : Server σ) : Nat × (Nat × Nat × Nat) × Nat :=
  (Task.stepsOf server.tasks, (server.session.map Session.leftToWork).getD (0, 0, 0), leftToTell server.sessions)

/-- Less is left of one server than of another. -/
def Less (later server : Server σ) : Prop :=
  Prod.Lex (· < ·) (Prod.Lex Session.Less (· < ·)) later.remaining server.remaining

theorem less_stepLoop? {server later : Server σ} (stepped : server.stepLoop? = some later) :
    Less later server := by
  unfold stepLoop? at stepped
  split at stepped
  · cases stepped
  next tasks wire done =>
    cases stepped
    exact .left _ _ (Task.stepsOf_next?_lt done)
  next deed tasks wire done =>
    obtain ⟨⟨more, after⟩, performed, rfl⟩ := Option.map_eq_some_iff.1 stepped
    refine .left _ _ ?_
    have small := stepsOf_perform?_le performed
    have whole := Task.stepsOf_next?_own done
    simp only [Task.stepsOf_append]
    omega

theorem less_stepWorker? {server later : Server σ} (stepped : server.stepWorker? = some later) :
    Less later server := by
  unfold stepWorker? at stepped
  split at stepped
  · cases stepped
  next session former found =>
  simp only [Less, remaining, Server.session, found]
  split at stepped
  · obtain ⟨⟨after, breakpoints⟩, worked, rfl⟩ := Option.map_eq_some_iff.1 stepped
    exact .right _ (.left _ _ (Session.leftToWork_work?_lt worked))
  next tasks wire done =>
    cases stepped
    exact .right _ (.left _ _ (.right _ (.right _ (Task.stepsOf_next?_lt done))))
  next deed tasks wire done =>
    cases stepped
    have whole := Task.stepsOf_next?_own done
    have fewer : Task.stepsOf tasks < Task.stepsOf session.tasks := by omega
    cases deed <;> exact .right _ (.left _ _ (.right _ (.right _ fewer)))

/-- A step of a forwarder leaves less to tell, and all but the session's telling as it is. -/
theorem forwarded?_lt {server later : Server σ} {session after : Session σ}
    (forwarded : server.forwarded? session = some (later, after)) :
    after.leftToTell < session.leftToTell ∧ after.leftToWork = session.leftToWork ∧ later.tasks = server.tasks := by
  unfold forwarded? at forwarded
  split at forwarded
  next done =>
    obtain ⟨told, next, same⟩ := Option.map_eq_some_iff.1 forwarded
    cases same
    have idle : session.forwarding = [] := by
      unfold Task.next? at done
      split at done <;> simp_all
    have less := Session.leftToTell_forwardNext?_lt next idle
    unfold Session.forwardNext? at next
    split at next
    · cases next
    · split at next <;> cases next
      exact ⟨less, rfl, rfl⟩
  next forwarding wire done =>
    cases forwarded
    exact ⟨Nat.add_lt_add_left (Task.stepsOf_next?_lt done) _, rfl, rfl⟩
  next deed forwarding wire done =>
    have whole := Task.stepsOf_next?_own done
    have fewer : Task.stepsOf forwarding < Task.stepsOf session.forwarding := by omega
    cases deed <;> cases forwarded <;> exact ⟨Nat.add_lt_add_left fewer _, rfl, rfl⟩

omit [Interpreter σ] in
theorem leftToTell_set_lt {sessions : List (Session σ)} {age : Nat} {session after : Session σ}
    (found : sessions[age]? = some session) (less : after.leftToTell < session.leftToTell) :
    leftToTell (sessions.set age after) < leftToTell sessions := by
  induction sessions generalizing age with
  | nil => cases found
  | cons first rest ih =>
    cases age with
    | zero =>
      cases found
      exact Nat.add_lt_add_right less _
    | succ age => exact Nat.add_lt_add_left (ih found) _

theorem head?_set {sessions : List (Session σ)} {age : Nat} {session after : Session σ}
    (found : sessions[age]? = some session) (same : after.leftToWork = session.leftToWork) :
    (sessions.set age after).head?.map Session.leftToWork = sessions.head?.map Session.leftToWork := by
  cases sessions with
  | nil => cases found
  | cons first rest =>
    cases age with
    | zero =>
      cases found
      simp [same]
    | succ age => rfl

theorem less_stepForwarder? {server later : Server σ} {age : Nat}
    (stepped : server.stepForwarder? age = some later) : Less later server := by
  unfold stepForwarder? at stepped
  obtain ⟨session, found, stepped⟩ := Option.bind_eq_some_iff.1 stepped
  obtain ⟨⟨told, after⟩, forwarded, rfl⟩ := Option.map_eq_some_iff.1 stepped
  obtain ⟨less, same, tasks⟩ := forwarded?_lt forwarded
  simp only [Less, remaining, tasks, Server.session, head?_set found same]
  exact .right _ (.right _ (leftToTell_set_lt found less))

/-- Every step of every thread leaves less to do. -/
theorem less_step? {server later : Server σ} {actor : Actor} (stepped : server.step? actor = some later) :
    Less later server := by
  cases actor
  · exact less_stepLoop? stepped
  · exact less_stepWorker? stepped
  · exact less_stepForwarder? stepped

/-- All threads, in the order in which they are asked for a step. The worker comes last, so that what it
reported is written before it goes on. -/
def actors (server : Server σ) : List Actor :=
  .loop :: (List.range server.sessions.length).map .forwarder ++ [.worker]

def next? (server : Server σ) : Option (Server σ) :=
  server.actors.findSome? server.step?

/-- Lets the threads take steps until none of them can. -/
def settled (server : Server σ) : Server σ :=
  match _more : server.next? with
  | none => server
  | some later => later.settled
termination_by server.remaining
decreasing_by
  obtain ⟨actor, _, stepped⟩ := List.exists_of_findSome?_eq_some _more
  exact less_step? stepped

end Server

/-- What one message, or the end of the input, led to: the bytes that were taken, and what was
written. -/
structure Exchange where
  taken : Nat
  written : List Message
  deriving Repr, Inhabited

/-- Why serving came to its end. -/
inductive Ending where
  | inputEnd
  /-- The client disconnected. -/
  | left
  | fault (fault : StreamFault)
  deriving DecidableEq, Repr, Inhabited

def Ending.fault? : Ending → Option StreamFault
  | .fault cause => some cause
  | _ => none

/-- All that serving an input led to. -/
structure Service (σ : Type) where
  exchanges : List Exchange
  ending : Ending
  server : Server σ

namespace Server

def exchange (before after : Server σ) (input rest : List UInt8) : Exchange :=
  ⟨input.length - rest.length, after.written.drop before.written.length⟩

/-- Serves an input to its end, to a fault in it, or until the client disconnects. -/
def serve (host : Host σ) (server : Server σ) (input : List UInt8) : Service σ :=
  let rest := (readMessage input).2
  match _read : (readMessage input).1 with
  | .message message =>
    let later := (server.receive host message).settled
    let exchange := server.exchange later input rest
    if later.isServing then
      let service := later.serve host rest
      { service with exchanges := exchange :: service.exchanges }
    else ⟨[exchange], .left, later⟩
  | .none =>
    let later := server.finish.settled
    ⟨[server.exchange later input rest], .inputEnd, later⟩
  | .fault fault =>
    let later := server.abandon.settled
    ⟨[server.exchange later input rest], .fault fault, later⟩
termination_by input.length
decreasing_by exact length_readMessage_lt _read

end Server
end RStepper.Adapter
