import RStepper.Proofs.ServerHistory

/-! The order in which the request loop does what requests ask for. A request is answered once or handed on, a run
is handed to the worker behind the answer that grants it, and the last answer waits for the session to be over. -/

namespace RStepper

/-- The number and the command of the request that an inspection answers. -/
def Request.asks? : Request → Option (Nat × String)
  | .evaluate id _ => some (id, "evaluate")
  | .variables id => some (id, "variables")
  | .run _ | .runTo _ | .stop => none

namespace Adapter
variable {σ : Type}

def Closing (command : String) : Prop :=
  command = "disconnect" ∨ command = "terminate"

/-- The commands whose answers come from the worker. -/
def Inspecting (command : String) : Prop :=
  command = "evaluate" ∨ command = "variables"

def Stepping (command : String) : Prop :=
  command = "continue" ∨ command = "next" ∨ command = "stepIn" ∨ command = "stepOut"

def HandsOn (views : List (Content ⊕ LoopDeed σ)) : Prop :=
  ∃ request refusal, .inr (.submit request refusal) ∈ views

/-- What the request loop knows of the session, if there is one. -/
inductive Phase where
  /-- It is listened to, or its end has been heard. -/
  | attended
  /-- Its worker is done. -/
  | done
  /-- It is new, and not listened to yet. -/
  | fresh
  /-- Nothing more will come of it. -/
  | finished
  deriving DecidableEq

/-- How far the request loop is: whether the request has still to be answered or handed on, whether it was
granted, whether more requests will be read, and what the session is known to be. -/
structure Stage where
  owed : Bool
  granted : Bool
  serving : Bool
  phase : Phase

/-- Tasks of the request loop that are in order, from a stage on, for the request that was read last. Only
behind a fault of the input is a session left before it is over. -/
inductive Orderly (request : Option (Nat × String)) (isBroken : Bool) : Stage → List (Content ⊕ LoopDeed σ) → Prop where
  | rests {granted} : Orderly request isBroken ⟨false, granted, true, .attended⟩ []
  | left {granted phase} (finished : isBroken = false → phase = .finished) :
      Orderly request isBroken ⟨false, granted, false, phase⟩ []
  | grants {number command body serving phase rest} (asked : request = some (number, command)) (own : ¬ Inspecting command)
      (closing : Closing command → phase = .finished) (handsOn : Stepping command → HandsOn rest)
      (later : Orderly request isBroken ⟨false, true, serving, phase⟩ rest) :
      Orderly request isBroken ⟨true, false, serving, phase⟩ (.inl (granted number command body) :: rest)
  | refuses {number command message serving phase rest} (asked : request = some (number, command))
      (closing : Closing command → phase = .finished) (later : Orderly request isBroken ⟨false, false, serving, phase⟩ rest) :
      Orderly request isBroken ⟨true, false, serving, phase⟩ (.inl (refused number command message) :: rest)
  | greets {serving rest} (later : Orderly request isBroken ⟨false, true, serving, .attended⟩ rest) :
      Orderly request isBroken ⟨false, true, serving, .attended⟩ (.inl (.event "initialized" none) :: rest)
  | sets {points serving rest} (later : Orderly request isBroken ⟨true, false, serving, .attended⟩ rest) :
      Orderly request isBroken ⟨true, false, serving, .attended⟩ (.inr (.setBreakpoints points) :: rest)
  | tells {number serving rest} (asked : request = some (number, "stackTrace"))
      (later : Orderly request isBroken ⟨false, true, serving, .attended⟩ rest) :
      Orderly request isBroken ⟨true, false, serving, .attended⟩ (.inr (.tellStack number "stackTrace") :: rest)
  | runs {mode serving rest} (later : Orderly request isBroken ⟨false, false, serving, .attended⟩ rest) :
      Orderly request isBroken ⟨false, true, serving, .attended⟩ (.inr (.submit (.run mode) none) :: rest)
  | inspects {number command inspection message serving rest} (asked : request = some (number, command))
      (asks : inspection.asks? = some (number, command))
      (later : Orderly request isBroken ⟨false, false, serving, .attended⟩ rest) :
      Orderly request isBroken ⟨true, false, serving, .attended⟩
        (.inr (.submit inspection (some (refused number command message))) :: rest)
  | stops {owed granted serving rest} (later : Orderly request isBroken ⟨owed, granted, serving, .attended⟩ rest) :
      Orderly request isBroken ⟨owed, granted, serving, .attended⟩ (.inr .stop :: rest)
  | awaits {owed granted serving rest} (later : Orderly request isBroken ⟨owed, granted, serving, .done⟩ rest) :
      Orderly request isBroken ⟨owed, granted, serving, .attended⟩ (.inr .awaitWorker :: rest)
  | adopts {owed granted serving debuggee stopsOnEntry showsOutput script rest}
      (later : Orderly request isBroken ⟨owed, granted, serving, .fresh⟩ rest) :
      Orderly request isBroken ⟨owed, granted, serving, .done⟩ (.inr (.adopt debuggee stopsOnEntry showsOutput script) :: rest)
  | listens {owed granted serving rest} (later : Orderly request isBroken ⟨owed, granted, serving, .attended⟩ rest) :
      Orderly request isBroken ⟨owed, granted, serving, .fresh⟩ (.inr .listen :: rest)
  | joins {owed granted serving rest} (later : Orderly request isBroken ⟨owed, granted, serving, .finished⟩ rest) :
      Orderly request isBroken ⟨owed, granted, serving, .attended⟩ (.inr .join :: rest)
  | leaves {owed granted phase rest} (finished : isBroken = false → phase = .finished)
      (later : Orderly request isBroken ⟨owed, granted, false, phase⟩ rest) :
      Orderly request isBroken ⟨owed, granted, true, phase⟩ (.inr .leave :: rest)

theorem orderly_running (server : Server σ) {number : Nat} {command : String} (mode : RunMode) (body : Option Json)
    (isBroken : Bool) (own : ¬ Inspecting command) (goesOn : ¬ Closing command) :
    Orderly (some (number, command)) isBroken ⟨true, false, true, .attended⟩
      ((server.running number command mode body).map Task.view) := by
  unfold Server.running
  split
  · exact .grants rfl own (fun closing => absurd closing goesOn) (fun _ => ⟨_, _, List.mem_cons_self⟩) (.runs .rests)
  · exact .refuses rfl (fun closing => absurd closing goesOn) .rests

theorem orderly_tasksFor (host : Host σ) (server : Server σ) (number : Nat) (command : String) (arguments : Option Json)
    (isBroken : Bool) :
    Orderly (some (number, command)) isBroken ⟨true, false, true, .attended⟩
      ((server.tasksFor host number command arguments).map Task.view) := by
  unfold Server.tasksFor
  split
  · exact .grants rfl (by simp [Inspecting]) (by simp [Closing]) (by simp [Stepping]) (.greets .rests)
  · unfold Server.launching
    split
    · exact .refuses rfl (by simp [Closing]) .rests
    · split
      · exact .refuses rfl (by simp [Closing]) .rests
      · exact .stops (.awaits (.adopts (.grants rfl (by simp [Inspecting]) (by simp [Closing]) (by simp [Stepping]) (.listens .rests))))
  · exact .sets (.grants rfl (by simp [Inspecting]) (by simp [Closing]) (by simp [Stepping]) .rests)
  · split
    · exact .grants rfl (by simp [Inspecting]) (by simp [Closing]) (by simp [Stepping]) .rests
    · exact .grants rfl (by simp [Inspecting]) (by simp [Closing]) (by simp [Stepping]) (.runs .rests)
  · exact .grants rfl (by simp [Inspecting]) (by simp [Closing]) (by simp [Stepping]) .rests
  · exact .tells rfl .rests
  · exact .grants rfl (by simp [Inspecting]) (by simp [Closing]) (by simp [Stepping]) .rests
  · exact .inspects rfl rfl .rests
  · split
    · exact .inspects rfl rfl .rests
    · exact .refuses rfl (by simp [Closing]) .rests
  · exact orderly_running server _ _ isBroken (by simp [Inspecting]) (by simp [Closing])
  · exact orderly_running server _ _ isBroken (by simp [Inspecting]) (by simp [Closing])
  · exact orderly_running server _ _ isBroken (by simp [Inspecting]) (by simp [Closing])
  · exact orderly_running server _ _ isBroken (by simp [Inspecting]) (by simp [Closing])
  · exact .stops (.joins (.grants rfl (by simp [Inspecting]) (fun _ => rfl) (by simp [Stepping]) (.leaves (fun _ => rfl) (.left fun _ => rfl))))
  · exact .stops (.joins (.grants rfl (by simp [Inspecting]) (fun _ => rfl) (by simp [Stepping]) (.leaves (fun _ => rfl) (.left fun _ => rfl))))
  · refine .refuses rfl ?_ .rests
    rintro (rfl | rfl) <;> contradiction

/-- The session is listened to, or its last report has been heard. -/
def Ledger.Attends (ledger : Ledger σ) (session : Session σ) : Prop :=
  session.isHeard = true ∨ ∃ report, ledger.latest? = some report ∧ report.2.EndsSession

def Phase.Fits (ledger : Ledger σ) (session : Session σ) : Phase → Prop
  | .attended => ledger.Attends session
  | .done => session.isDone = true ∧ ledger.Attends session
  | .fresh => True
  | .finished => session.isOver = true ∧ ledger.Attends session

/-- What the loop knows of a session that has been replaced is that its worker is done. -/
def Phase.aged (phase : Phase) : Nat → Phase
  | 0 => phase
  | _ + 1 => .done

theorem Phase.Fits.busy {phase : Phase} {session after : Session σ} {ledger later : Ledger σ}
    (fits : phase.Fits ledger session) (busy : session.isDone = false)
    (attends : ledger.Attends session → later.Attends after) : phase.Fits later after := by
  cases phase with
  | attended => exact attends fits
  | fresh => trivial
  | done => cases busy.symm.trans fits.1
  | finished =>
    have done : session.isDone = true := by
      have finished := fits.1
      simp only [Session.isOver, Bool.and_eq_true] at finished
      exact finished.1.1
    cases busy.symm.trans done

theorem Phase.Fits.telling {phase : Phase} {session after : Session σ} {ledger later : Ledger σ}
    (fits : phase.Fits ledger session) (telling : session.isOver = false) (done : after.isDone = session.isDone)
    (attends : ledger.Attends session → later.Attends after) : phase.Fits later after := by
  cases phase with
  | attended => exact attends fits
  | fresh => trivial
  | done => exact ⟨done.trans fits.1, attends fits.2⟩
  | finished => cases telling.symm.trans fits.1

theorem isDone_of_tasks {session : Session σ} (busy : session.tasks ≠ []) : session.isDone = false := by
  simp [Session.isDone, busy]

theorem isOver_of_forwarding {session : Session σ} (busy : session.forwarding ≠ []) : session.isOver = false := by
  simp [Session.isOver, busy]

theorem isDone_of_work? [Interpreter σ] {session later : Session σ} {breakpoints left : Breakpoints}
    (worked : session.work? breakpoints = some (later, left)) : session.isDone = false := by
  cases Session.work?_cases worked with
  | leg activity | takes activity | releases activity => simp [Session.isDone, Worker.hasEnded, activity]

/-- What is said of a session of an age and of its ledger holds of all. -/
def Each (property : Nat → Session σ → Ledger σ → Prop) (sessions : List (Session σ)) (ledgers : List (Ledger σ)) : Prop :=
  ∀ age session ledger, sessions[age]? = some session → ledgers[age]? = some ledger → property age session ledger

section
variable {property : Nat → Session σ → Ledger σ → Prop} {sessions : List (Session σ)} {ledgers : List (Ledger σ)}

theorem each_cons {session : Session σ} {ledger : Ledger σ} : Each property (session :: sessions) (ledger :: ledgers) ↔
    property 0 session ledger ∧ Each (fun age => property (age + 1)) sessions ledgers := by
  constructor
  · intro each
    exact ⟨each 0 _ _ rfl rfl, fun age _ _ session? ledger? => each (age + 1) _ _ session? ledger?⟩
  · rintro ⟨first, each⟩ age other otherLedger session? ledger?
    cases age with
    | zero =>
      cases session?
      cases ledger?
      exact first
    | succ age => exact each age _ _ session? ledger?

theorem Each.set {age : Nat} {session : Session σ} {ledger : Ledger σ} (each : Each property sessions ledgers)
    (changed : property age session ledger) : Each property (sessions.set age session) (ledgers.set age ledger) := by
  intro other one oneLedger session? ledger?
  rw [List.getElem?_set] at session? ledger?
  split at session?
  next same =>
    subst same
    simp only [if_true] at ledger?
    split at session? <;> split at ledger? <;> cases session? <;> cases ledger?
    exact changed
  next different =>
    rw [if_neg different] at ledger?
    exact each other one oneLedger session? ledger?

theorem set_self {α : Type} {items : List α} {index : Nat} {item : α} (item? : items[index]? = some item) :
    items.set index item = items := by
  obtain ⟨inside, rfl⟩ := List.getElem?_eq_some_iff.mp item?
  exact List.set_getElem_self inside

theorem Each.setSession {age : Nat} {session : Session σ} {ledger : Ledger σ} (each : Each property sessions ledgers)
    (ledger? : ledgers[age]? = some ledger) (changed : property age session ledger) :
    Each property (sessions.set age session) ledgers := by
  rw [← set_self ledger?]
  exact each.set changed

theorem Each.mono {stronger : Nat → Session σ → Ledger σ → Prop} (each : Each stronger sessions ledgers)
    (weaker : ∀ age session ledger, stronger age session ledger → property age session ledger) :
    Each property sessions ledgers :=
  fun age session ledger session? ledger? => weaker age session ledger (each age session ledger session? ledger?)

end

def Post.Grants (post : Post) (asked : List Asked) (place : Nat) : Prop :=
  post.cause = some place ∧ ∃ request body, asked[place]? = some request ∧ ¬ Inspecting request.command ∧
    post.message.content = granted request.number request.command body

namespace History
variable [Interpreter σ]

/-- The newest session is what the loop takes it for; of the others nothing is left but their forwarders. -/
def Held (phase : Phase) (age : Nat) (session : Session σ) (ledger : Ledger σ) : Prop :=
  ledger.Keeps session ∧ (phase.aged age).Fits ledger session

def current? (history : History σ) : Option (Nat × String) :=
  history.asked.getLast?.map fun asked => (asked.number, asked.command)

structure SoundAt (history : History σ) (stage : Stage) : Prop where
  orderly : Orderly history.current? history.isBroken stage (history.server.tasks.map Task.view)
  serving : stage.serving = history.server.isServing
  granted : stage.granted = true → ∃ post ∈ history.posts, post.Grants history.asked history.latest
  paired : history.ledgers.length = history.server.sessions.length
  held : Each (Held stage.phase) history.server.sessions history.ledgers
  breakpoints : ∀ ledger ∈ history.ledgers.head?, ledger.chronicle.breakpoints = history.server.breakpoints

def Sound (history : History σ) : Prop :=
  ∃ stage, history.SoundAt stage

theorem sound_begin (attached : Option (Debuggee σ × Bool)) : (begin attached).Sound := by
  have empty : (begin attached).server.sessions = [] ∧ (begin attached).ledgers = [] ∧
      (begin attached).server.isServing = true := by
    cases attached <;> exact ⟨rfl, rfl, rfl⟩
  obtain ⟨sessions, ledgers, serving⟩ := empty
  have orderly : ∃ phase, Orderly (begin attached).current? (begin attached).isBroken ⟨false, false, true, phase⟩
      ((begin attached).server.tasks.map Task.view) := by
    cases attached with
    | none => exact ⟨_, .rests⟩
    | some prepared => exact ⟨_, .adopts (.listens .rests)⟩
  obtain ⟨phase, orderly⟩ := orderly
  refine ⟨_, orderly, serving.symm, nofun, ?_, ?_, ?_⟩
  · rw [sessions, ledgers]
    rfl
  · rw [sessions]
    exact fun age _ _ session? => by simp at session?
  · rw [ledgers]
    exact fun _ member => by simp at member

omit [Interpreter σ] in
theorem isReady_iff {history : History σ} :
    history.isReady = true ↔ history.server.tasks = [] ∧ history.server.isServing = true := by
  simp [isReady]

theorem SoundAt.ready {history : History σ} {stage : Stage} (sound : history.SoundAt stage)
    (ready : history.isReady = true) : stage = ⟨false, stage.granted, true, .attended⟩ := by
  obtain ⟨free, serving⟩ := isReady_iff.mp ready
  have orderly := sound.orderly
  have same := sound.serving
  rw [free] at orderly
  rw [serving] at same
  cases orderly with
  | rests => rfl
  | left => cases same

theorem SoundAt.read {history : History σ} {stage : Stage} (sound : history.SoundAt stage) (ready : history.isReady = true)
    (host : Host σ) (number : Nat) (command : String) (arguments : Option Json) :
    ({ history with
      server := { history.server with tasks := history.server.tasksFor host number command arguments }
      asked := history.asked ++ [⟨number, command, history.now⟩] } : History σ).SoundAt ⟨true, false, true, .attended⟩ := by
  have idle := sound.ready ready
  have attended : stage.phase = .attended := congrArg Stage.phase idle
  have serving : stage.serving = true := congrArg Stage.serving idle
  exact {
    sound with
    orderly := by
      rw [current?, List.getLast?_concat]
      exact orderly_tasksFor host history.server number command arguments history.isBroken
    serving := serving.symm.trans sound.serving
    granted := nofun
    held := attended ▸ sound.held }

omit [Interpreter σ] in
theorem asked_latest {history : History σ} {number : Nat} {command : String}
    (asked : history.current? = some (number, command)) :
    ∃ request, history.asked[history.latest]? = some request ∧ request.number = number ∧ request.command = command := by
  obtain ⟨request, last, same⟩ := Option.map_eq_some_iff.mp asked
  rw [List.getLast?_eq_getElem?] at last
  cases same
  exact ⟨request, last, rfl, rfl⟩

theorem SoundAt.loopWrites {history : History σ} {stage : Stage} {wire : Wire} {rest : List (Task (LoopDeed σ))}
    (sound : history.SoundAt stage) (writes : Task.Writes history.server.wire wire history.server.tasks rest) :
    Sound ({ history.post (Task.posted? history.server.tasks).toList (some history.latest) with
      server := { history.server with wire, tasks := rest } } : History σ) := by
  have orderly := sound.orderly
  rw [writes.views] at orderly
  cases posted : Task.posted? history.server.tasks with
  | none =>
    rw [posted] at orderly
    refine ⟨stage, orderly, sound.serving, ?_, sound.paired, sound.held, sound.breakpoints⟩
    intro granted
    simpa [History.post, latest] using sound.granted granted
  | some message =>
    rw [posted] at orderly
    let post : Post := ⟨message, some history.latest⟩
    have newest : post ∈ (history.post [message] (some history.latest)).posts := by simp [History.post, post]
    have older {post : Post} (member : post ∈ history.posts) :
        post ∈ (history.post [message] (some history.latest)).posts := by simp [History.post, member]
    change Orderly history.current? history.isBroken stage (.inl message.content :: rest.map Task.view) at orderly
    generalize content : message.content = said at orderly
    cases orderly with
    | grants asked own _ _ later =>
      obtain ⟨request, found, rfl, rfl⟩ := asked_latest asked
      refine ⟨_, later, sound.serving, fun _ => ⟨post, newest, rfl, request, _, found, own, content⟩, sound.paired, sound.held,
        sound.breakpoints⟩
    | refuses _ _ later => exact ⟨_, later, sound.serving, by simp, sound.paired, sound.held, sound.breakpoints⟩
    | greets later =>
      obtain ⟨post, member, grants⟩ := sound.granted rfl
      exact ⟨_, later, sound.serving, fun _ => ⟨post, older member, grants⟩, sound.paired, sound.held, sound.breakpoints⟩

theorem Held.done {age : Nat} {session : Session σ} {ledger : Ledger σ} (held : Held .done age session ledger) :
    ledger.Keeps session ∧ Phase.done.Fits ledger session := by
  cases age <;> exact held

theorem SoundAt.alterHead {history : History σ} {stage : Stage} {phase : Phase} (sound : history.SoundAt stage)
    {change : Session σ → Session σ} {alter : Ledger σ → Ledger σ}
    (changed : ∀ session ledger, session ∈ history.server.session → Held stage.phase 0 session ledger →
      Held phase 0 (change session) (alter ledger)) :
    Each (Held phase) (history.server.sessions.modifyHead change) (history.ledgers.modifyHead alter) := by
  have held := sound.held
  unfold Server.session at changed
  cases sessions : history.server.sessions with
  | nil => exact fun age _ _ session? => by simp at session?
  | cons session former =>
    cases ledgers : history.ledgers with
    | nil => exact fun age _ _ _ ledger? => by simp at ledger?
    | cons ledger older =>
      rw [sessions, ledgers, each_cons] at held
      rw [sessions] at changed
      exact each_cons.mpr ⟨changed session ledger rfl held.1, held.2⟩

omit [Interpreter σ] in
theorem modifyHead_id {α : Type} (items : List α) : items.modifyHead id = items := by
  cases items <;> rfl

omit [Interpreter σ] in
theorem head?_modifyHead {history : History σ} {alter : Ledger σ → Ledger σ} {breakpoints : Breakpoints}
    (altered : ∀ ledger ∈ history.ledgers.head?, (alter ledger).chronicle.breakpoints = breakpoints) :
    ∀ ledger ∈ (history.ledgers.modifyHead alter).head?, ledger.chronicle.breakpoints = breakpoints := by
  cases ledgers : history.ledgers with
  | nil => simp
  | cons ledger older =>
    rw [ledgers] at altered
    rintro _ ⟨⟩
    exact altered ledger rfl

theorem SoundAt.sets {history : History σ} {stage : Stage} {points : List (Int × Option String)}
    {rest : List (Task (LoopDeed σ))} (sound : history.SoundAt stage)
    (orderly : Orderly history.current? history.isBroken stage (rest.map Task.view)) :
    let breakpoints := history.server.breakpoints.replaceLines Location.scriptName points
    SoundAt ({ history.noteDeed (.setBreakpoints points) with
      server := { history.server with breakpoints, tasks := rest } } : History σ) stage := by
  intro breakpoints
  have held : Each (Held stage.phase) (history.server.sessions.modifyHead id)
      (history.ledgers.modifyHead (·.undergo (.alter breakpoints))) := by
    apply sound.alterHead
    rintro session ledger _ ⟨keeps, fits⟩
    exact ⟨keeps.alter breakpoints, by cases phase : stage.phase <;> rw [phase] at fits <;> exact fits⟩
  rw [modifyHead_id] at held
  refine ⟨orderly, sound.serving, sound.granted, ?_, held, head?_modifyHead fun _ _ => rfl⟩
  exact (List.length_modifyHead ..).trans sound.paired

theorem SoundAt.submits {history : History σ} {stage handed unhanded : Stage} {request : Request} {refusal : Option Content}
    {rest more : List (Task (LoopDeed σ))} {later : Server σ} (sound : history.SoundAt stage)
    (accepts : Orderly history.current? history.isBroken handed (rest.map Task.view))
    (refuses : Orderly history.current? history.isBroken unhanded ((refusal.toList.map Task.write ++ rest).map Task.view))
    (performed : history.server.perform? (.submit request refusal) = some (more, later))
    (ungranted : handed.granted = false ∧ unhanded.granted = false)
    (serving : handed.serving = stage.serving ∧ unhanded.serving = stage.serving)
    (phase : handed.phase = stage.phase ∧ unhanded.phase = stage.phase) :
    Sound ({ history.noteDeed (.submit request refusal) with server := { later with tasks := more ++ rest } } : History σ) := by
  obtain ⟨opened, rfl, rfl⟩ | ⟨opened, rfl, rfl⟩ := Server.perform?_submit performed
  case inr =>
    simp only [noteDeed, opened, Bool.false_eq_true, if_false]
    refine ⟨unhanded, refuses, serving.2.trans sound.serving, ?_, sound.paired, phase.2 ▸ sound.held, sound.breakpoints⟩
    simp [ungranted.2]
  case inl =>
    simp only [noteDeed, opened, if_true]
    refine ⟨handed, accepts, serving.1.trans sound.serving, by simp [ungranted.1], ?_, ?_, ?_⟩
    · simpa [Server.mapSession] using sound.paired
    · rw [phase.1]
      apply sound.alterHead
      rintro session ledger _ ⟨keeps, fits⟩
      refine ⟨keeps.hand _ request, ?_⟩
      cases same : stage.phase <;> rw [same] at fits <;> exact fits
    · exact head?_modifyHead sound.breakpoints

theorem SoundAt.loopDoes {history : History σ} {stage : Stage} {deed : LoopDeed σ} {rest more : List (Task (LoopDeed σ))}
    {later : Server σ} (sound : history.SoundAt stage) (tasks : history.server.tasks = .own deed :: rest)
    (performed : history.server.perform? deed = some (more, later)) :
    Sound ({ history.noteDeed deed with server := { later with tasks := more ++ rest } } : History σ) := by
  have orderly := sound.orderly
  rw [tasks] at orderly
  change Orderly history.current? history.isBroken stage (.inr deed :: rest.map Task.view) at orderly
  cases orderly with
  | sets orderly =>
    cases performed
    exact ⟨_, sound.sets orderly⟩
  | tells asked orderly =>
    cases performed
    exact ⟨_, .grants asked (by simp [Inspecting]) (by simp [Closing]) (by simp [Stepping]) orderly, sound.serving, nofun, sound.paired, sound.held, sound.breakpoints⟩
  | runs orderly => exact sound.submits orderly orderly performed ⟨rfl, rfl⟩ ⟨rfl, rfl⟩ ⟨rfl, rfl⟩
  | @inspects number command inspection message serving _ asked asks orderly =>
    have goesOn : ¬ Closing command := by
      cases inspection <;> cases asks <;> simp [Closing]
    have refuses : Orderly history.current? history.isBroken ⟨true, false, serving, .attended⟩
        (.inl (refused number command message) :: rest.map Task.view) :=
      .refuses asked (fun closing => absurd closing goesOn) orderly
    exact sound.submits orderly refuses performed ⟨rfl, rfl⟩ ⟨rfl, rfl⟩ ⟨rfl, rfl⟩
  | stops orderly =>
    cases performed
    refine ⟨_, orderly, sound.serving, sound.granted, ?_, ?_, ?_⟩
    · simpa [Server.mapSession, noteDeed] using sound.paired
    · apply sound.alterHead
      rintro session ledger _ ⟨keeps, fits⟩
      exact ⟨(keeps.hand none .stop).shutdown, fits⟩
    · exact head?_modifyHead sound.breakpoints
  | awaits orderly =>
    obtain ⟨done, rfl, rfl⟩ := Server.perform?_awaitWorker performed
    refine ⟨_, orderly, sound.serving, sound.granted, sound.paired, ?_, sound.breakpoints⟩
    have held : Each (Held .done) (history.server.sessions.modifyHead id) (history.ledgers.modifyHead id) := by
      apply sound.alterHead
      rintro session ledger newest ⟨keeps, fits⟩
      rw [show history.server.session = some session from newest] at done
      exact ⟨keeps, done, fits⟩
    rw [modifyHead_id, modifyHead_id] at held
    exact held
  | @adopts _ _ _ debuggee stopsOnEntry showsOutput _ _ orderly =>
    cases performed
    refine ⟨_, orderly, sound.serving, sound.granted, congrArg (· + 1) sound.paired, ?_, ?_⟩
    · refine each_cons.mpr ⟨⟨Ledger.keeps_start _ _ _ _, trivial⟩, ?_⟩
      exact sound.held.mono fun age session ledger (held : Held .done age session ledger) => held.done
    · rintro _ ⟨⟩
      rfl
  | listens orderly =>
    cases performed
    refine ⟨_, orderly, sound.serving, sound.granted, ?_, ?_, sound.breakpoints⟩
    · simpa [Server.mapSession, noteDeed] using sound.paired
    · have held : Each (Held .attended)
          (history.server.sessions.modifyHead fun session => { session with isHeard := true })
          (history.ledgers.modifyHead id) := by
        apply sound.alterHead
        rintro session ledger _ ⟨keeps, _⟩
        exact ⟨keeps.listen, .inl rfl⟩
      rw [modifyHead_id] at held
      exact held
  | joins orderly =>
    obtain ⟨finished, rfl, rfl⟩ := Server.perform?_join performed
    refine ⟨_, orderly, sound.serving, sound.granted, sound.paired, ?_, sound.breakpoints⟩
    have held : Each (Held .finished) (history.server.sessions.modifyHead id) (history.ledgers.modifyHead id) := by
      apply sound.alterHead
      rintro session ledger newest ⟨keeps, fits⟩
      rw [show history.server.session = some session from newest] at finished
      exact ⟨keeps, finished, fits⟩
    rw [modifyHead_id, modifyHead_id] at held
    exact held
  | leaves _ orderly =>
    cases performed
    exact ⟨_, orderly, rfl, sound.granted, sound.paired, sound.held, sound.breakpoints⟩

theorem SoundAt.altersNewest {history : History σ} {stage : Stage} {session after : Session σ} {former : List (Session σ)}
    {ledger later : Ledger σ} {older : List (Ledger σ)} (sound : history.SoundAt stage)
    (sessions : history.server.sessions = session :: former) (ledgers : history.ledgers = ledger :: older)
    (busy : session.isDone = false) (keeps : ledger.Keeps session → later.Keeps after)
    (attends : ledger.Attends session → later.Attends after) :
    Each (Held stage.phase) (after :: former) (later :: older) := by
  have held := sound.held
  rw [sessions, ledgers, each_cons] at held
  exact each_cons.mpr ⟨⟨keeps held.1.1, held.1.2.busy busy attends⟩, held.2⟩

theorem SoundAt.altersAt {history : History σ} {stage : Stage} {age : Nat} {session after : Session σ}
    {ledger later : Ledger σ} (sound : history.SoundAt stage) (session? : history.server.sessions[age]? = some session)
    (ledger? : history.ledgers[age]? = some ledger) (telling : session.isOver = false)
    (done : after.isDone = session.isDone) (keeps : ledger.Keeps session → later.Keeps after)
    (attends : ledger.Attends session → later.Attends after) : Held stage.phase age after later := by
  obtain ⟨kept, fits⟩ := sound.held age session ledger session? ledger?
  exact ⟨keeps kept, fits.telling telling done attends⟩

theorem SoundAt.ledger {history : History σ} {stage : Stage} {age : Nat} {session : Session σ} (sound : history.SoundAt stage)
    (session? : history.server.sessions[age]? = some session) :
    ∃ ledger, history.ledgers[age]? = some ledger ∧ ledger.Keeps session := by
  have inside := (List.getElem?_eq_some_iff.mp session?).1
  rw [← sound.paired] at inside
  have ledger? := List.getElem?_eq_getElem inside
  exact ⟨_, ledger?, (sound.held age session _ session? ledger?).1⟩

theorem SoundAt.newest {history : History σ} {stage : Stage} (sound : history.SoundAt stage) :
    (history.server.sessions = [] ∧ history.ledgers = []) ∨ ∃ session former ledger older,
      history.server.sessions = session :: former ∧ history.ledgers = ledger :: older ∧ ledger.Keeps session := by
  have paired := sound.paired
  have held := sound.held
  cases sessions : history.server.sessions with
  | nil =>
    rw [sessions] at paired
    exact .inl ⟨rfl, List.eq_nil_of_length_eq_zero paired⟩
  | cons session former =>
    rw [sessions] at paired
    obtain ⟨ledger, older, ledgers⟩ := List.exists_cons_of_length_eq_add_one paired
    rw [sessions, ledgers, each_cons] at held
    exact .inr ⟨session, former, ledger, older, rfl, ledgers, held.1.1⟩

theorem SoundAt.only {history : History σ} {stage : Stage} (sound : history.SoundAt stage)
    (one : history.server.sessions.length ≤ 1) :
    (history.server.sessions = [] ∧ history.ledgers = []) ∨ ∃ session ledger,
      history.server.sessions = [session] ∧ history.ledgers = [ledger] ∧ ledger.Keeps session := by
  obtain none | ⟨session, former, ledger, older, sessions, ledgers, keeps⟩ := sound.newest
  · exact .inl none
  · obtain rfl : former = [] := by simpa [sessions] using one
    obtain rfl : older = [] := by simpa [sessions, ledgers] using sound.paired
    exact .inr ⟨session, ledger, sessions, ledgers, keeps⟩

omit [Interpreter σ] in
theorem newest_set {ledgers : List (Ledger σ)} {age : Nat} {ledger later : Ledger σ} {breakpoints : Breakpoints}
    (ledger? : ledgers[age]? = some ledger) (same : later.chronicle = ledger.chronicle)
    (newest : ∀ ledger ∈ ledgers.head?, ledger.chronicle.breakpoints = breakpoints) :
    ∀ ledger ∈ (ledgers.set age later).head?, ledger.chronicle.breakpoints = breakpoints := by
  cases ledgers with
  | nil => cases ledger?
  | cons first rest =>
    cases age with
    | zero =>
      cases ledger?
      rintro _ ⟨⟩
      rw [same]
      exact newest ledger rfl
    | succ age => exact newest

theorem Happens.sound {host : Host σ} {history later : History σ} (happens : Happens host history later)
    (sound : history.Sound) : later.Sound := by
  obtain ⟨stage, sound⟩ := sound
  have still (messages : List Message) (cause : Option Nat) (granted : stage.granted = true) :
      ∃ post ∈ (history.post messages cause).posts, post.Grants history.asked history.latest := by
    obtain ⟨post, member, grants⟩ := sound.granted granted
    exact ⟨post, List.mem_append_left _ member, grants⟩
  cases happens with
  | nothing => exact ⟨stage, sound⟩
  | reads ready => exact ⟨_, sound.read ready host _ _ _⟩
  | ends ready =>
    have orderly : Orderly (σ := σ) history.current? history.isBroken stage [.inr .stop, .inr .join, .inr .leave] := by
      rw [sound.ready ready]
      exact .stops (.joins (.leaves (fun _ => rfl) (.left fun _ => rfl)))
    exact ⟨stage, orderly, sound.serving, sound.granted, sound.paired, sound.held, sound.breakpoints⟩
  | breaks ready =>
    have orderly : Orderly (σ := σ) history.current? true stage [.inr .leave, .inr .stop, .inr .awaitWorker] := by
      rw [sound.ready ready]
      exact .leaves nofun (.stops (.awaits (.left nofun)))
    exact ⟨stage, orderly, sound.serving, sound.granted, sound.paired, sound.held, sound.breakpoints⟩
  | loopWrites writes => exact sound.loopWrites writes
  | loopDoes tasks performed => exact sound.loopDoes tasks performed
  | workerWrites sessions first busy writes =>
    obtain ⟨older, ledgers⟩ := List.head?_eq_some_iff.mp first
    refine ⟨stage, sound.orderly, sound.serving, still _ _, ?_, ?_, sound.breakpoints⟩
    · simpa [History.post, sessions] using sound.paired
    · exact ledgers ▸ sound.altersNewest sessions ledgers (isDone_of_tasks busy) (·.workerWrites writes) id
  | @workerDoes session former deed rest sessions tasks =>
    have paired := sound.paired
    rw [sessions] at paired
    obtain ⟨ledger, older, ledgers⟩ := List.exists_cons_of_length_eq_add_one paired
    have busy : session.isDone = false := isDone_of_tasks (by simp [tasks])
    refine ⟨stage, sound.orderly, sound.serving, sound.granted, ?_, ?_, sound.breakpoints⟩
    · exact paired
    · cases deed with
      | report event => exact ledgers ▸ sound.altersNewest sessions ledgers busy (·.reports tasks) id
      | close => exact ledgers ▸ sound.altersNewest sessions ledgers busy (·.closing tasks) id
  | @works session former ledger older after left sessions ledgers free worked =>
    have newest := sound.breakpoints ledger (by rw [ledgers]; rfl)
    rw [← newest] at worked
    have busy := isDone_of_work? worked
    have kept := (sound.held 0 session ledger (by rw [sessions]; rfl) (by rw [ledgers]; rfl)).1
    obtain ⟨keeps, breakpoints, events, reports⟩ := kept.works free worked
    refine ⟨stage, sound.orderly, sound.serving, sound.granted, ?_, ?_, ?_⟩
    · simpa [sessions, ledgers] using sound.paired
    · apply sound.altersNewest sessions ledgers busy fun _ => keeps
      have told := Ledger.told_of_reports kept.heard (ledger.work_heard session).1 reports
      have latest : (ledger.work session).latest? = ledger.latest? := by rw [Ledger.latest?, told, Ledger.latest?]
      rw [Ledger.Attends, Ledger.Attends, latest, (Ledger.forwarding_work? worked).1]
      exact id
    · rintro _ ⟨⟩
      exact breakpoints
  | @forwarderWrites age session ledger wire rest session? ledger? busy writes =>
    have telling : session.isOver = false := isOver_of_forwarding busy
    refine ⟨stage, sound.orderly, sound.serving, still _ _, ?_, ?_, ?_⟩
    · simpa [History.post] using sound.paired
    · exact sound.held.set (sound.altersAt session? ledger? telling rfl (·.forwarderWrites writes busy) id)
    · exact newest_set ledger? rfl sound.breakpoints
  | @showsFrames age session frames rest session? forwarding =>
    obtain ⟨ledger, ledger?, _⟩ := sound.ledger session?
    have telling : session.isOver = false := isOver_of_forwarding (by simp [forwarding])
    refine ⟨stage, sound.orderly, sound.serving, sound.granted, ?_, ?_, sound.breakpoints⟩
    · simpa using sound.paired
    · exact sound.held.setSession ledger? (sound.altersAt session? ledger? telling rfl (·.showsFrames forwarding) id)
  | @hangsUp age session rest session? forwarding =>
    obtain ⟨ledger, ledger?, kept⟩ := sound.ledger session?
    have telling : session.isOver = false := isOver_of_forwarding (by simp [forwarding])
    refine ⟨stage, sound.orderly, sound.serving, sound.granted, ?_, ?_, sound.breakpoints⟩
    · simpa using sound.paired
    · have ends := (kept.endsBehind forwarding).2
      exact sound.held.setSession ledger?
        (sound.altersAt session? ledger? telling rfl (·.hangsUp forwarding) fun _ => .inr ends)
  | @hears age session ledger event rest session? ledger? free events heard =>
    have telling : session.isOver = false := by simp [Session.isOver, events, heard]
    refine ⟨stage, sound.orderly, sound.serving, sound.granted, ?_, ?_, ?_⟩
    · simpa using sound.paired
    · exact sound.held.set (sound.altersAt session? ledger? telling rfl (·.hears events free heard) fun _ => .inl heard)
    · exact newest_set ledger? rfl sound.breakpoints

/-- A worker is at the start of a program that the loop takes up, or it makes one move at most; and while it runs its
breakpoints are left as they are, unless this is put down. -/
theorem Happens.chronicles_adopted {host : Host σ} {history later : History σ} (happens : Happens host history later)
    (sound : history.Sound) {property : Chronicle σ → Prop}
    (starts : ∀ debuggee stopsOnEntry showsOutput script,
      .adopt debuggee stopsOnEntry showsOutput script ∈ Task.deeds history.server.tasks →
        ∀ breakpoints, property (.start debuggee breakpoints))
    (moves : ∀ chronicle move,
      (later.isDisturbed = false → chronicle.worker.isRunning = true → ∀ breakpoints, move ≠ .alter breakpoints) →
        property chronicle → property (chronicle.move move))
    (all : ∀ ledger ∈ history.ledgers, property ledger.chronicle) : ∀ ledger ∈ later.ledgers, property ledger.chronicle := by
  obtain ⟨stage, sound⟩ := sound
  have head {alter : Ledger σ → Ledger σ}
      (altered : ∀ ledger ∈ history.ledgers.head?, property ledger.chronicle → property (alter ledger).chronicle) :
      ∀ ledger ∈ history.ledgers.modifyHead alter, property ledger.chronicle := by
    cases ledgers : history.ledgers with
    | nil => simp
    | cons newest older =>
      rw [ledgers] at altered all
      intro ledger member
      rcases List.mem_cons.mp member with rfl | former
      · exact altered newest rfl (all newest List.mem_cons_self)
      · exact all ledger (List.mem_cons_of_mem _ former)
  have set {age : Nat} {ledger after : Ledger σ} (ledger? : history.ledgers[age]? = some ledger)
      (same : after.chronicle = ledger.chronicle) : ∀ other ∈ history.ledgers.set age after, property other.chronicle := by
    intro other member
    rcases List.mem_or_eq_of_mem_set member with kept | rfl
    · exact all other kept
    · exact same ▸ all ledger (List.mem_of_getElem? ledger?)
  cases happens with
  | @loopDoes deed rest more after tasks performed =>
    cases deed with
    | setBreakpoints points =>
      refine head fun ledger newest holds => moves ledger.chronicle (.alter _) ?_ holds
      intro undisturbed running
      obtain ⟨_, ledgers⟩ | ⟨session, former, other, older, sessions, ledgers, keeps⟩ := sound.newest
      · simp [ledgers] at newest
      · rw [ledgers] at newest
        cases newest
        rw [keeps.worker] at running
        simp [noteDeed, Server.session, sessions, running] at undisturbed
    | submit request refusal =>
      dsimp only [noteDeed]
      split
      · exact head fun _ _ holds => holds
      · exact all
    | adopt debuggee stopsOnEntry showsOutput script =>
      intro ledger member
      rcases List.mem_cons.mp member with rfl | former
      · exact starts debuggee stopsOnEntry showsOutput script (by simp [tasks]) _
      · exact all ledger former
    | stop => exact head fun ledger _ holds => moves ledger.chronicle .shutdown (fun _ _ _ => by simp) holds
    | _ => exact all
  | @works session former ledger older after left sessions ledgers free worked =>
    intro other member
    rw [ledgers] at all
    have holds := all ledger List.mem_cons_self
    rcases List.mem_cons.mp member with rfl | former
    · unfold Ledger.work
      split
      · exact moves ledger.chronicle (.request _) (fun _ _ _ => by simp) holds
      · exact moves ledger.chronicle .leg (fun _ _ _ => by simp) holds
      · exact moves ledger.chronicle .release (fun _ _ _ => by simp) holds
      · exact holds
    · exact all other (List.mem_cons_of_mem _ former)
  | forwarderWrites session? ledger? => exact set ledger? rfl
  | hears session? ledger? => exact set ledger? rfl
  | _ => exact all

theorem Happens.chronicles {host : Host σ} {history later : History σ} (happens : Happens host history later)
    (sound : history.Sound) {property : Chronicle σ → Prop}
    (starts : ∀ debuggee breakpoints, property (.start debuggee breakpoints))
    (moves : ∀ chronicle move,
      (later.isDisturbed = false → chronicle.worker.isRunning = true → ∀ breakpoints, move ≠ .alter breakpoints) →
        property chronicle → property (chronicle.move move))
    (all : ∀ ledger ∈ history.ledgers, property ledger.chronicle) : ∀ ledger ∈ later.ledgers, property ledger.chronicle :=
  happens.chronicles_adopted sound (fun debuggee _ _ _ _ => starts debuggee) moves all

theorem happens_induction {host : Host σ} {motive : History σ → Prop} {attached : Option (Debuggee σ × Bool)}
    (initial : motive (begin attached))
    (step : ∀ history later, history.Sound → Happens host history later → motive history → motive later)
    (occurrences : List Occurrence) :
    ((begin attached).moved host occurrences).Sound ∧ motive ((begin attached).moved host occurrences) := by
  apply moved_induction (motive := fun history => history.Sound ∧ motive history) ⟨sound_begin attached, initial⟩
  rintro history occurrence ⟨⟨stage, sound⟩, holds⟩
  have happens := happens_move host sound.paired occurrence
  exact ⟨happens.sound ⟨stage, sound⟩, step history _ ⟨stage, sound⟩ happens holds⟩

end History
end Adapter
end RStepper
