import Mathlib.Data.List.Forall2
import RStepper.Adapter.Serving
import RStepper.Proofs.SessionLedger

/-! A server from its start on: the requests it read, and what its threads did about them, in whatever order
they took their steps. What is written is put down with the request that led to it. -/

namespace RStepper

def Request.isRun : Request → Bool
  | .run _ | .runTo _ => true
  | .evaluate .. | .variables _ | .stop => false

namespace Adapter
variable {σ : Type}

/-- A message on the wire and its cause: a request, by its place among all that were read. -/
structure Post where
  message : Message
  cause : Option Nat

/-- What has happened by some time: the messages that were written, oldest first, and the requests for which
a worker was handed a run. -/
structure Moment where
  posts : List Post
  runs : List Nat

structure Asked where
  number : Nat
  command : String
  time : Moment

/-- Frames that were looked up for a request. -/
structure Look where
  number : Nat
  script : Option String
  frames : List Location
  time : Moment

namespace Server
variable {server later : Server σ} {more : List (Task (LoopDeed σ))}

theorem perform?_submit {request : Request} {refusal : Option Content}
    (performed : server.perform? (.submit request refusal) = some (more, later)) :
    (server.session.any (·.isOpen) = true ∧ more = [] ∧
      later = server.mapSession fun session => { session with requests := session.requests ++ [request] }) ∨
    (server.session.any (·.isOpen) = false ∧ more = refusal.toList.map .write ∧ later = server) := by
  unfold perform? at performed
  dsimp only at performed
  split at performed <;> cases performed
  next opened => exact .inl ⟨opened, rfl, rfl⟩
  next opened => exact .inr ⟨Bool.eq_false_iff.mpr opened, rfl, rfl⟩

theorem perform?_awaitWorker (performed : server.perform? .awaitWorker = some (more, later)) :
    server.session.all (·.isDone) = true ∧ more = [] ∧ later = server := by
  unfold perform? at performed
  dsimp only at performed
  split at performed <;> cases performed
  next done => exact ⟨done, rfl, rfl⟩

theorem perform?_join (performed : server.perform? .join = some (more, later)) :
    server.session.all (·.isOver) = true ∧ more = [] ∧ later = server := by
  unfold perform? at performed
  dsimp only at performed
  split at performed <;> cases performed
  next finished => exact ⟨finished, rfl, rfl⟩

end Server

structure History (σ : Type) where
  server : Server σ
  /-- The requests that were read, oldest first. -/
  asked : List Asked
  /-- The messages that were written, oldest first. -/
  posts : List Post
  /-- The requests for which a worker was handed a run. -/
  runs : List Nat
  /-- What is remembered of the sessions, in their order. -/
  ledgers : List (Ledger σ)
  looks : List Look
  /-- The input had a fault. -/
  isBroken : Bool
  /-- The breakpoints were changed in the course of a run. -/
  isDisturbed : Bool

/-- What can happen to a server. It reads when its request loop has nothing else to do. -/
inductive Occurrence where
  | read (message : Message)
  | inputEnd
  | fault
  | step (actor : Actor)

def Occurrence.asks (number : Nat) (command : String) (arguments : Option Json) : Occurrence :=
  .read ((Content.request command arguments).numbered number)

/-- A system on which nothing can be launched. -/
def barrenHost : Host σ :=
  ⟨fun _ => .error .missing, fun _ => .error Launch.noInterpreter⟩

/-- All threads of a server with one session take steps in turn. -/
def Occurrence.rounds (count : Nat) : List Occurrence :=
  (List.replicate count [.step .loop, .step .worker, .step (.forwarder 0)]).flatten

namespace History

/-- A server without a session, or with one that was prepared for it. -/
def begin (attached : Option (Debuggee σ × Bool)) : History σ :=
  let server := attached.elim .fresh fun (debuggee, stopsOnEntry) => Server.fresh.attach debuggee stopsOnEntry
  ⟨server, [], [], [], [], [], false, false⟩

def isReady (history : History σ) : Bool :=
  history.server.tasks.isEmpty && history.server.isServing

def latest (history : History σ) : Nat :=
  history.asked.length - 1

def now (history : History σ) : Moment :=
  ⟨history.posts, history.runs⟩

variable [Interpreter σ]

def noteDeed (history : History σ) : LoopDeed σ → History σ
  | .setBreakpoints points =>
    let breakpoints := history.server.breakpoints.replaceLines Location.scriptName points
    { history with
      ledgers := history.ledgers.modifyHead (·.undergo (.alter breakpoints))
      isDisturbed := history.isDisturbed || history.server.session.any (·.worker.isRunning) }
  | .tellStack number _ =>
    { history with looks := history.looks ++ [⟨number, history.server.script, history.server.frames, history.now⟩] }
  | .submit request _ =>
    if history.server.session.any (·.isOpen) then
      { history with
        ledgers := history.ledgers.modifyHead (·.hand (some history.latest))
        runs := history.runs ++ if request.isRun then [history.latest] else [] }
    else history
  | .adopt debuggee .. => { history with ledgers := .start debuggee history.server.breakpoints :: history.ledgers }
  | .stop => { history with ledgers := history.ledgers.modifyHead fun ledger => (ledger.hand none).undergo .shutdown }
  | .awaitWorker | .listen | .join | .leave => history

theorem noteDeed_kept (history : History σ) (deed : LoopDeed σ) :
    (history.noteDeed deed).asked = history.asked ∧ (history.noteDeed deed).posts = history.posts := by
  cases deed with
  | submit request refusal =>
    unfold noteDeed
    dsimp only
    split <;> exact ⟨rfl, rfl⟩
  | _ => exact ⟨rfl, rfl⟩

def post (history : History σ) (messages : List Message) (cause : Option Nat) : History σ :=
  { history with posts := history.posts ++ messages.map (⟨·, cause⟩) }

def noteLoop (history : History σ) : History σ :=
  match history.server.tasks with
  | .own deed :: _ => history.noteDeed deed
  | tasks => history.post (Task.posted? tasks).toList (some history.latest)

def noteWorker (history : History σ) : History σ :=
  match history.server.sessions, history.ledgers with
  | session :: _, ledger :: former =>
    match session.tasks with
    | [] => { history with ledgers := ledger.work session :: former }
    | tasks => history.post (Task.posted? tasks).toList ledger.cause
  | _, _ => history

def noteForwarder (history : History σ) (age : Nat) : History σ :=
  match history.server.sessions[age]?, history.ledgers[age]? with
  | some session, some ledger =>
    match session.forwarding with
    | [] => { history with ledgers := history.ledgers.set age { ledger with heard := ledger.heard + 1 } }
    | tasks =>
      let messages := (Task.posted? tasks).toList
      { history.post messages ledger.latestCause with ledgers := history.ledgers.set age (ledger.wrote messages) }
  | _, _ => history

/-- Puts down what a thread is about to do. -/
def note (history : History σ) : Actor → History σ
  | .loop => history.noteLoop
  | .worker => history.noteWorker
  | .forwarder age => history.noteForwarder age

def noteMessage (history : History σ) (message : Message) : History σ :=
  match message.isRequest, message.content with
  | true, .request command _ =>
    { history with asked := history.asked ++ [⟨message.number, command, history.now⟩] }
  | _, _ => history

def move (host : Host σ) (history : History σ) : Occurrence → History σ
  | .read message =>
    if history.isReady then { history.noteMessage message with server := history.server.receive host message } else history
  | .inputEnd => if history.isReady then { history with server := history.server.finish } else history
  | .fault => if history.isReady then { history with server := history.server.abandon, isBroken := true } else history
  | .step actor => (history.server.step? actor).elim history fun later => { history.note actor with server := later }

def moved (host : Host σ) (history : History σ) (occurrences : List Occurrence) : History σ :=
  occurrences.foldl (move host) history

theorem moved_induction_of {host : Host σ} {motive : History σ → Prop} (allowed : Occurrence → Prop) {history : History σ}
    (initial : motive history)
    (step : ∀ history occurrence, allowed occurrence → motive history → motive (history.move host occurrence))
    (occurrences : List Occurrence) (all : ∀ occurrence ∈ occurrences, allowed occurrence) :
    motive (history.moved host occurrences) := by
  induction occurrences generalizing history with
  | nil => exact initial
  | cons occurrence rest ih =>
    obtain ⟨first, others⟩ := List.forall_mem_cons.mp all
    exact ih (step history occurrence first initial) others

theorem moved_induction {host : Host σ} {motive : History σ → Prop} {history : History σ} (initial : motive history)
    (step : ∀ history occurrence, motive history → motive (history.move host occurrence)) (occurrences : List Occurrence) :
    motive (history.moved host occurrences) :=
  moved_induction_of (fun _ => True) initial (fun history occurrence _ => step history occurrence) occurrences fun _ _ => trivial

/-- Everything that can happen to a server, thread by thread. -/
inductive Happens (host : Host σ) (history : History σ) : History σ → Prop where
  | nothing : Happens host history history
  | reads {number command arguments} (ready : history.isReady = true) :
      Happens host history
        { history with
          server := { history.server with tasks := history.server.tasksFor host number command arguments }
          asked := history.asked ++ [⟨number, command, history.now⟩] }
  | ends (ready : history.isReady = true) :
      Happens host history
        { history with server := { history.server with tasks := [.own .stop, .own .join, .own .leave] } }
  | breaks (ready : history.isReady = true) :
      Happens host history
        { history with
          server := { history.server with tasks := [.own .leave, .own .stop, .own .awaitWorker] }
          isBroken := true }
  | loopWrites {wire rest} (writes : Task.Writes history.server.wire wire history.server.tasks rest) :
      Happens host history
        { history.post (Task.posted? history.server.tasks).toList (some history.latest) with
          server := { history.server with wire, tasks := rest } }
  | loopDoes {deed rest more later} (tasks : history.server.tasks = .own deed :: rest)
      (performed : history.server.perform? deed = some (more, later)) :
      Happens host history { history.noteDeed deed with server := { later with tasks := more ++ rest } }
  | workerWrites {session former ledger wire rest} (sessions : history.server.sessions = session :: former)
      (ledgers : history.ledgers.head? = some ledger) (busy : session.tasks ≠ [])
      (writes : Task.Writes history.server.wire wire session.tasks rest) :
      Happens host history
        { history.post (Task.posted? session.tasks).toList ledger.cause with
          server := { history.server with wire, sessions := { session with tasks := rest } :: former } }
  | workerDoes {session former deed rest} (sessions : history.server.sessions = session :: former)
      (tasks : session.tasks = .own deed :: rest) :
      Happens host history
        { history with
          server := { history.server with sessions := Session.took deed { session with tasks := rest } :: former } }
  | works {session former ledger ledgers later breakpoints} (sessions : history.server.sessions = session :: former)
      (remembered : history.ledgers = ledger :: ledgers) (free : session.tasks = [])
      (worked : session.work? history.server.breakpoints = some (later, breakpoints)) :
      Happens host history
        { history with
          server := { history.server with sessions := later :: former, breakpoints }
          ledgers := ledger.work session :: ledgers }
  | forwarderWrites {age session ledger wire rest} (session? : history.server.sessions[age]? = some session)
      (ledger? : history.ledgers[age]? = some ledger) (busy : session.forwarding ≠ [])
      (writes : Task.Writes history.server.wire wire session.forwarding rest) :
      Happens host history
        { history.post (Task.posted? session.forwarding).toList ledger.latestCause with
          server := { history.server with
            wire
            sessions := history.server.sessions.set age { session with forwarding := rest } }
          ledgers := history.ledgers.set age (ledger.wrote (Task.posted? session.forwarding).toList) }
  | showsFrames {age session frames rest} (session? : history.server.sessions[age]? = some session)
      (forwarding : session.forwarding = .own (.showFrames frames) :: rest) :
      Happens host history
        { history with
          server := { history.server with
            frames
            sessions := history.server.sessions.set age { session with forwarding := rest } } }
  | hangsUp {age session rest} (session? : history.server.sessions[age]? = some session)
      (forwarding : session.forwarding = .own .hangUp :: rest) :
      Happens host history
        { history with
          server := { history.server with
            sessions := history.server.sessions.set age { session with forwarding := rest, isHeard := false } } }
  | hears {age session ledger event rest} (session? : history.server.sessions[age]? = some session)
      (ledger? : history.ledgers[age]? = some ledger) (free : session.forwarding = [])
      (events : session.events = event :: rest) (heard : session.isHeard = true) :
      Happens host history
        { history with
          server := { history.server with
            sessions := history.server.sessions.set age
              { session with events := rest, forwarding := forward session.announcesEntry event } }
          ledgers := history.ledgers.set age { ledger with heard := ledger.heard + 1 } }

/-- Reading changes something only if the server is ready and the message is a request. -/
theorem move_read (host : Host σ) (history : History σ) (message : Message) :
    history.move host (.read message) = history ∨
      ∃ command arguments, message.content = .request command arguments ∧ history.isReady = true ∧
        history.move host (.read message) =
          { history with
            server := { history.server with tasks := history.server.tasksFor host message.number command arguments }
            asked := history.asked ++ [⟨message.number, command, history.now⟩] } := by
  unfold move
  dsimp only
  split
  next ready =>
    have free : history.server.tasks = [] := by
      simp only [isReady, Bool.and_eq_true, List.isEmpty_iff] at ready
      exact ready.1
    have passed (other : ∀ command arguments, message.isRequest = true → message.content ≠ .request command arguments) :
        { history.noteMessage message with server := history.server.receive host message } = history := by
      unfold noteMessage Server.receive
      cases kind : message.isRequest with
      | false => rfl
      | true =>
        cases content : message.content with
        | request command arguments => exact absurd content (other command arguments kind)
        | _ => rfl
    cases kind : message.isRequest with
    | false => exact .inl (passed fun _ _ request => by cases kind.symm.trans request)
    | true =>
      cases content : message.content with
      | request command arguments =>
        refine .inr ⟨command, arguments, rfl, ready, ?_⟩
        simp only [noteMessage, Server.receive, kind, content, free, List.nil_append]
      | _ => exact .inl (passed (by simp [content]))
  · exact .inl rfl

theorem happens_read (host : Host σ) (history : History σ) (message : Message) :
    Happens host history (history.move host (.read message)) := by
  obtain same | ⟨command, arguments, _, ready, read⟩ := move_read host history message
  · rw [same]
    exact .nothing
  · rw [read]
    exact .reads ready

theorem happens_loop {host : Host σ} {history : History σ} {later : Server σ}
    (stepped : history.server.stepLoop? = some later) :
    Happens host history { history.noteLoop with server := later } := by
  unfold Server.stepLoop? at stepped
  split at stepped
  · cases stepped
  next rest wire done =>
    cases stepped
    have note : history.noteLoop = history.post (Task.posted? history.server.tasks).toList (some history.latest) := by
      unfold noteLoop
      split
      next tasks =>
        rw [tasks] at done
        cases done
      · rfl
    rw [note]
    exact .loopWrites (Task.next?_writes done)
  next deed rest wire done =>
    obtain ⟨⟨more, after⟩, performed, rfl⟩ := Option.map_eq_some_iff.1 stepped
    obtain ⟨tasks, rfl⟩ := Task.next?_own done
    have note : history.noteLoop = history.noteDeed deed := by simp [noteLoop, tasks]
    rw [note]
    exact .loopDoes tasks performed

theorem happens_worker {host : Host σ} {history : History σ} {later : Server σ}
    (paired : history.ledgers.length = history.server.sessions.length) (stepped : history.server.stepWorker? = some later) :
    Happens host history { history.noteWorker with server := later } := by
  unfold Server.stepWorker? at stepped
  split at stepped
  · cases stepped
  next session former sessions =>
  rw [sessions] at paired
  obtain ⟨ledger, ledgers, remembered⟩ := List.exists_cons_of_length_eq_add_one paired
  split at stepped
  next done =>
    obtain ⟨⟨after, breakpoints⟩, worked, rfl⟩ := Option.map_eq_some_iff.1 stepped
    have free := Task.next?_none done
    have note : history.noteWorker = { history with ledgers := ledger.work session :: ledgers } := by
      simp [noteWorker, sessions, remembered, free]
    rw [note]
    exact .works sessions remembered free worked
  next rest wire done =>
    cases stepped
    have busy : session.tasks ≠ [] := by
      intro free
      rw [free] at done
      cases done
    have note : history.noteWorker = history.post (Task.posted? session.tasks).toList ledger.cause := by
      unfold noteWorker
      rw [sessions, remembered]
      dsimp only
      split
      next free => exact absurd free busy
      · rfl
    rw [note]
    exact .workerWrites sessions (by rw [remembered]; rfl) busy (Task.next?_writes done)
  next deed rest wire done =>
    cases stepped
    obtain ⟨tasks, rfl⟩ := Task.next?_own done
    have note : history.noteWorker = history := by
      unfold noteWorker
      rw [sessions, remembered]
      dsimp only
      rw [tasks]
      simp [Task.posted?, post]
    rw [note]
    exact .workerDoes sessions tasks

theorem happens_forwarder {host : Host σ} {history : History σ} {later : Server σ} {age : Nat}
    (paired : history.ledgers.length = history.server.sessions.length)
    (stepped : history.server.stepForwarder? age = some later) :
    Happens host history { history.noteForwarder age with server := later } := by
  unfold Server.stepForwarder? at stepped
  obtain ⟨session, session?, stepped⟩ := Option.bind_eq_some_iff.1 stepped
  obtain ⟨⟨told, after⟩, forwarded, rfl⟩ := Option.map_eq_some_iff.1 stepped
  have inside : age < history.ledgers.length := by
    rw [paired]
    exact (List.getElem?_eq_some_iff.1 session?).1
  have ledger? : history.ledgers[age]? = some history.ledgers[age] := List.getElem?_eq_getElem inside
  have kept : history.ledgers.set age history.ledgers[age] = history.ledgers := List.set_getElem_self inside
  generalize history.ledgers[age] = ledger at ledger? kept
  unfold Server.forwarded? at forwarded
  split at forwarded
  next done =>
    have free := Task.next?_none done
    obtain ⟨heard, next, same⟩ := Option.map_eq_some_iff.1 forwarded
    cases same
    unfold Session.forwardNext? at next
    split at next
    · cases next
    next event rest events =>
      cases listening : session.isHeard with
      | false => simp [listening] at next
      | true =>
      rw [if_pos listening] at next
      cases next
      have note : history.noteForwarder age =
          { history with ledgers := history.ledgers.set age { ledger with heard := ledger.heard + 1 } } := by
        simp [noteForwarder, session?, ledger?, free]
      rw [note]
      exact .hears session? ledger? free events listening
  next rest wire done =>
    cases forwarded
    have busy : session.forwarding ≠ [] := by
      intro free
      rw [free] at done
      cases done
    have note : history.noteForwarder age =
        { history.post (Task.posted? session.forwarding).toList ledger.latestCause with
          ledgers := history.ledgers.set age (ledger.wrote (Task.posted? session.forwarding).toList) } := by
      unfold noteForwarder
      rw [session?, ledger?]
      dsimp only
      split
      next free => exact absurd free busy
      · rfl
    rw [note]
    exact .forwarderWrites session? ledger? busy (Task.next?_writes done)
  next deed rest wire done =>
    obtain ⟨forwarding, rfl⟩ := Task.next?_own done
    have unsent : Task.posted? session.forwarding = none := by rw [forwarding]; rfl
    have same : history.ledgers.set age (ledger.wrote []) = history.ledgers := by
      rw [Ledger.wrote, List.map_nil, List.append_nil]
      exact kept
    have note : history.noteForwarder age = history := by
      unfold noteForwarder
      rw [session?, ledger?]
      dsimp only
      rw [forwarding]
      simp [Task.posted?, post, same]
    rw [note]
    cases deed with
    | showFrames frames =>
      cases forwarded
      exact .showsFrames session? forwarding
    | hangUp =>
      cases forwarded
      have hung := @Happens.hangsUp σ _ host history age session rest session? forwarding
      exact hung

theorem happens_move (host : Host σ) {history : History σ} (paired : history.ledgers.length = history.server.sessions.length)
    (occurrence : Occurrence) : Happens host history (history.move host occurrence) := by
  have free (ready : history.isReady = true) : history.server.tasks = [] := by
    simp only [isReady, Bool.and_eq_true, List.isEmpty_iff] at ready
    exact ready.1
  cases occurrence with
  | read message => exact happens_read host history message
  | inputEnd =>
    unfold move
    dsimp only
    split
    next ready =>
      simp only [Server.finish, Server.shutdown, free ready, List.nil_append, List.cons_append]
      exact .ends ready
    · exact .nothing
  | fault =>
    unfold move
    dsimp only
    split
    next ready =>
      simp only [Server.abandon, free ready, List.nil_append]
      exact .breaks ready
    · exact .nothing
  | step actor =>
    unfold move
    dsimp only
    cases stepped : history.server.step? actor with
    | none => exact .nothing
    | some later =>
      cases actor with
      | loop => exact happens_loop stepped
      | worker => exact happens_worker paired stepped
      | forwarder age => exact happens_forwarder paired stepped

end History
end Adapter
end RStepper
