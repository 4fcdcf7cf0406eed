import RStepper.Proofs.EventCauses

/-! The request to stop comes last. Behind it a session is handed no other request, so that a worker which stops as
it is asked to leaves none of them out. -/

namespace RStepper
variable {σ : Type}

namespace Chronicle
variable [Interpreter σ]

/-- A worker that has taken no request up has ended only if its program has no statement. -/
structure Begins (chronicle : Chronicle σ) : Prop where
  consistent : chronicle.Consistent
  opening : chronicle.accounts = [] → chronicle.worker.activity = .ended → chronicle.opening = [.terminated]

theorem begins_start (debuggee : Debuggee σ) (breakpoints : Breakpoints) : (start debuggee breakpoints).Begins := by
  refine ⟨consistent_start debuggee breakpoints, fun _ => ?_⟩
  unfold start Worker.start
  dsimp only
  split
  · exact nofun
  · exact fun _ => rfl

theorem move_begins {chronicle : Chronicle σ} (begins : chronicle.Begins) (move : Move) : (chronicle.move move).Begins := by
  refine ⟨move_consistent move begins.consistent, ?_⟩
  intro unasked ended
  have present := begins.consistent.present
  rw [opening_move]
  cases activity : chronicle.worker.activity with
  | ended =>
    obtain ⟨_, _, accounts⟩ := move_ended activity move
    exact begins.opening (accounts ▸ unasked) activity
  | idle =>
    exfalso
    cases move with
    | request request =>
      rw [move_request activity] at unasked
      exact noted_ne_nil (List.cons_ne_nil _ _) unasked
    | leg | alter | shutdown => simp [Chronicle.move, activity] at ended
    | release =>
      dsimp only [Chronicle.move] at ended
      split at ended <;> simp [Worker.release, behind, activity] at ended
  | running | stalled =>
    have asked : chronicle.accounts ≠ [] := by
      rw [activity] at present
      generalize chronicle.accounts = accounts at present
      cases present
      all_goals exact List.cons_ne_nil _ _
    exfalso
    cases move with
    | request => exact asked (by simpa [Chronicle.move, activity] using unasked)
    | alter | shutdown => exact asked unasked
    | leg =>
      dsimp only [Chronicle.move] at unasked
      split at unasked
      · exact noted_ne_nil asked unasked
      · exact asked unasked
    | release =>
      dsimp only [Chronicle.move] at unasked
      split at unasked
      · exact noted_ne_nil asked unasked
      · exact asked unasked

end Chronicle

namespace Adapter

/-- Tasks of the loop, and what may be read behind them, hand requests on only while the session is not being ended.
A new session makes up for the end of the one before it. -/
def Steady (serving stopping : Bool) : List (Content ⊕ LoopDeed σ) → Prop
  | [] => serving = true → stopping = false
  | .inr .stop :: rest => Steady serving true rest
  | .inr (.adopt ..) :: rest => Steady serving false rest
  | .inr (.submit ..) :: rest => stopping = false ∧ Steady serving stopping rest
  | .inr .leave :: rest => Steady false stopping rest
  | _ :: rest => Steady serving stopping rest

theorem steady_running (server : Server σ) (number : Nat) (command : String) (mode : RunMode) (body : Option Json) :
    Steady true false ((server.running number command mode body).map Task.view) := by
  unfold Server.running
  split
  · exact ⟨rfl, fun _ => rfl⟩
  · exact fun _ => rfl

theorem steady_tasksFor (host : Host σ) (server : Server σ) (number : Nat) (command : String) (arguments : Option Json) :
    Steady true false ((server.tasksFor host number command arguments).map Task.view) := by
  unfold Server.tasksFor
  split
  · exact fun _ => rfl
  · unfold Server.launching
    split
    · exact fun _ => rfl
    · split <;> exact fun _ => rfl
  · exact fun _ => rfl
  · split
    · exact fun _ => rfl
    · exact ⟨rfl, fun _ => rfl⟩
  · exact fun _ => rfl
  · exact fun _ => rfl
  · exact fun _ => rfl
  · exact ⟨rfl, fun _ => rfl⟩
  · split
    · exact ⟨rfl, fun _ => rfl⟩
    · exact fun _ => rfl
  · exact steady_running server _ _ _ _
  · exact steady_running server _ _ _ _
  · exact steady_running server _ _ _ _
  · exact steady_running server _ _ _ _
  · exact nofun
  · exact nofun
  · exact fun _ => rfl

theorem steady_written {serving stopping : Bool} {written rest : List (Content ⊕ LoopDeed σ)}
    (messages : ∀ view ∈ written, ∃ content, view = .inl content) :
    Steady serving stopping (written ++ rest) ↔ Steady serving stopping rest := by
  induction written with
  | nil => rfl
  | cons view more ih =>
    obtain ⟨content, rfl⟩ := messages view List.mem_cons_self
    exact ih fun other member => messages other (List.mem_cons_of_mem _ member)

def Server.isStopping (server : Server σ) : Bool :=
  server.session.any (·.isStopping)

namespace Ledger

/-- Behind a request to stop a session was handed nothing else. -/
structure StopsLast (ledger : Ledger σ) (session : Session σ) : Prop where
  ordered : (ledger.handed session).Pairwise fun later earlier => earlier.2 = .stop → later.2 = .stop
  stopping : ∀ pair ∈ ledger.handed session, pair.2 = .stop → session.isStopping = true

theorem StopsLast.of_same {ledger later : Ledger σ} {session after : Session σ} (stopsLast : ledger.StopsLast session)
    (handed : later.handed after = ledger.handed session) (isStopping : after.isStopping = session.isStopping) :
    later.StopsLast after :=
  ⟨handed ▸ stopsLast.ordered, handed ▸ isStopping ▸ stopsLast.stopping⟩

theorem StopsLast.cons {ledger later : Ledger σ} {session after : Session σ} {cause : Option Nat} {request : Request}
    (stopsLast : ledger.StopsLast session) (handed : later.handed after = (cause, request) :: ledger.handed session)
    (last : session.isStopping = true → request = .stop) (stops : request = .stop → after.isStopping = true)
    (kept : session.isStopping = true → after.isStopping = true) : later.StopsLast after := by
  constructor
  · rw [handed, List.pairwise_cons]
    refine ⟨fun pair member stop => last (stopsLast.stopping pair member stop), stopsLast.ordered⟩
  · rw [handed]
    intro pair member stop
    rcases List.mem_cons.mp member with rfl | older
    · exact stops stop
    · exact kept (stopsLast.stopping pair older stop)

def HasEnded (ledger : Ledger σ) : Prop :=
  ∃ report ∈ ledger.reports, report.2.EndsSession

variable [Interpreter σ]

/-- A worker has ended as it reported, or because the last request that it took up was to stop. -/
theorem Keeps.ended {ledger : Ledger σ} {session : Session σ} (keeps : ledger.Keeps session)
    (begins : ledger.chronicle.Begins) (ended : session.worker.hasEnded = true) :
    ledger.HasEnded ∨ ∃ cause older, ledger.taken.zip (ledger.chronicle.accounts.map Account.request) = (cause, .stop) :: older := by
  have finished : ledger.chronicle.worker.activity = .ended := by rw [keeps.worker, Worker.hasEnded_iff.mp ended]
  have present := begins.consistent.present
  have opening := begins.opening
  have taken := keeps.taken
  rw [finished] at present opening
  unfold HasEnded Ledger.reports
  generalize ledger.chronicle.accounts = accounts at present opening taken ⊢
  cases present with
  | never =>
    left
    rw [opening rfl rfl]
    exact ⟨(none, .terminated), by simp, trivial⟩
  | @closed newest older settled ends =>
    obtain ⟨cause, causes, same⟩ := List.exists_cons_of_length_eq_add_one taken
    rw [same]
    rcases ends with stop | ⟨report, member, ends⟩
    · right
      exact ⟨cause, causes.zip (older.map Account.request), by simp [stop]⟩
    · left
      refine ⟨(cause, report.event), List.mem_append_right _ ?_, ends⟩
      refine List.mem_flatMap.mpr ⟨(cause, newest), by simp, ?_⟩
      exact List.mem_map.mpr ⟨report, member, rfl⟩

/-- What an ended worker has left out came with the end of the program. -/
theorem Keeps.leavesOut {ledger : Ledger σ} {session : Session σ} (keeps : ledger.Keeps session)
    (begins : ledger.chronicle.Begins) (stopsLast : ledger.StopsLast session) (ended : session.worker.hasEnded = true)
    {cause : Option Nat} {request : Request} (waits : (cause, request) ∈ ledger.waiting.zip session.requests)
    (asked : request ≠ .stop) : ledger.HasEnded := by
  rcases keeps.ended begins ended with told | ⟨_, older, taken⟩
  · exact told
  · have ordered := stopsLast.ordered
    rw [handed, taken, List.pairwise_append] at ordered
    exact absurd (ordered.2.2 _ (List.mem_reverse.mpr waits) _ List.mem_cons_self rfl) asked

/-- A worker that takes no more requests and was not asked to stop has come to the end of its program. -/
theorem Keeps.closed {ledger : Ledger σ} {session : Session σ} (keeps : ledger.Keeps session)
    (begins : ledger.chronicle.Begins) (stopsLast : ledger.StopsLast session) (closed : session.isOpen = false)
    (going : session.isStopping = false) : ledger.HasEnded := by
  rcases keeps.ended begins (keeps.closes.mpr (.inr closed)) with told | ⟨_, older, taken⟩
  · exact told
  · have member : (_, .stop) ∈ ledger.handed session := List.mem_append_right _ (taken ▸ List.mem_cons_self)
    cases going.symm.trans (stopsLast.stopping _ member rfl)

end Ledger

namespace History
variable [Interpreter σ]

/-- Sessions are handed what they are asked before they are asked to stop. -/
structure Heeds (history : History σ) : Prop where
  steady : ∃ stopping, Steady history.server.isServing stopping (history.server.tasks.map Task.view) ∧
    (history.server.isStopping = true → stopping = true)
  last : Each (fun _ session ledger => ledger.StopsLast session) history.server.sessions history.ledgers
  begun : ∀ place ∈ history.runs, ∃ request, (some place, request) ∈ history.handed ∧ request.isRun = true
  begins : ∀ ledger ∈ history.ledgers, ledger.chronicle.Begins

theorem heeds_begin (attached : Option (Debuggee σ × Bool)) : (begin attached).Heeds where
  steady := by cases attached <;> exact ⟨false, fun _ => rfl, nofun⟩
  last := by
    have empty : (begin attached).server.sessions = [] := by cases attached <;> rfl
    rw [empty]
    exact fun age _ _ session? => by simp at session?
  begun := by simp [begin]
  begins := by simp [begin]

omit [Interpreter σ] in
theorem isStopping_set {server : Server σ} {age : Nat} {session : Session σ} (after : Session σ)
    (session? : server.sessions[age]? = some session) (same : after.isStopping = session.isStopping) :
    Server.isStopping { server with sessions := server.sessions.set age after } = server.isStopping := by
  unfold Server.isStopping Server.session
  cases sessions : server.sessions with
  | nil => simp [sessions] at session?
  | cons first rest =>
    rw [sessions] at session?
    cases age with
    | zero =>
      cases session?
      simp [same]
    | succ age => simp

theorem Heeds.ready {history : History σ} (heeds : history.Heeds) (ready : history.isReady = true) :
    history.server.isStopping = false := by
  obtain ⟨stopping, steady, stops⟩ := heeds.steady
  obtain ⟨free, serving⟩ := isReady_iff.mp ready
  rw [free, serving] at steady
  have resting : stopping = false := steady rfl
  exact Bool.eq_false_iff.mpr fun stopped => by simp [resting] at stops; simp [stops] at stopped

theorem Heeds.altersAt {history : History σ} (heeds : history.Heeds) {age : Nat} {session after : Session σ}
    {ledger later : Ledger σ} (session? : history.server.sessions[age]? = some session)
    (ledger? : history.ledgers[age]? = some ledger) (handed : later.handed after = ledger.handed session)
    (same : after.isStopping = session.isStopping) :
    Each (fun _ session ledger => ledger.StopsLast session) (history.server.sessions.set age after)
      (history.ledgers.set age later) :=
  heeds.last.set ((heeds.last age session ledger session? ledger?).of_same handed same)

theorem Heeds.altersHead {history : History σ} (heeds : history.Heeds) (change : Session σ → Session σ)
    (alter : Ledger σ → Ledger σ)
    (changed : ∀ session ledger, session ∈ history.server.session → ledger ∈ history.ledgers.head? →
      ledger.StopsLast session → (alter ledger).StopsLast (change session)) :
    Each (fun _ session ledger => ledger.StopsLast session) (history.server.sessions.modifyHead change)
      (history.ledgers.modifyHead alter) := by
  have last := heeds.last
  unfold Server.session at changed
  cases sessions : history.server.sessions with
  | nil => exact fun age _ _ session? => by simp at session?
  | cons session former =>
    cases ledgers : history.ledgers with
    | nil => exact fun age _ _ _ ledger? => by simp at ledger?
    | cons ledger older =>
      rw [sessions, ledgers, each_cons] at last
      rw [sessions, ledgers] at changed
      exact each_cons.mpr ⟨changed session ledger rfl rfl last.1, last.2⟩

omit [Interpreter σ] in
theorem isStopping_of_mapSession {server : Server σ} {change : Session σ → Session σ}
    (stopped : (server.mapSession change).isStopping = true)
    (same : ∀ session, (change session).isStopping = session.isStopping) : server.isStopping = true := by
  unfold Server.isStopping Server.session Server.mapSession at *
  cases sessions : server.sessions with
  | nil => simp [sessions] at stopped
  | cons session former => simpa [sessions, same] using stopped

theorem Heeds.loopDoes {history : History σ} {stage : Stage} (heeds : history.Heeds) (sound : history.SoundAt stage)
    {deed : LoopDeed σ} {rest more : List (Task (LoopDeed σ))} {later : Server σ}
    (tasks : history.server.tasks = .own deed :: rest) (performed : history.server.perform? deed = some (more, later)) :
    (∃ stopping, Steady later.isServing stopping ((more ++ rest).map Task.view) ∧ (later.isStopping = true → stopping = true)) ∧
      Each (fun _ session ledger => ledger.StopsLast session) later.sessions (history.noteDeed deed).ledgers := by
  obtain ⟨stopping, steady, stops⟩ := heeds.steady
  rw [tasks, List.map_cons] at steady
  have last := heeds.last
  have waiting (session : Session σ) (ledger : Ledger σ) (newest : session ∈ history.server.session)
      (newestLedger : ledger ∈ history.ledgers.head?) : ledger.waiting.length = session.requests.length := by
    apply (sound.held 0 session ledger ?_ ?_).1.waiting
    · exact List.head?_eq_getElem?.symm.trans newest
    · exact List.head?_eq_getElem?.symm.trans newestLedger
  cases deed with
  | submit request refusal =>
    have goesOn : request ≠ .stop := by
      have orderly := sound.orderly
      rw [tasks, List.map_cons, Task.view] at orderly
      cases orderly with
      | runs => simp
      | inspects _ asks =>
        rintro rfl
        cases asks
    obtain ⟨resting, steady⟩ := steady
    obtain ⟨opened, rfl, rfl⟩ | ⟨opened, rfl, rfl⟩ := Server.perform?_submit performed
    case inr =>
      simp only [noteDeed, opened, Bool.false_eq_true, if_false]
      refine ⟨⟨stopping, ?_, stops⟩, last⟩
      rw [List.map_append, steady_written]
      · exact steady
      · intro view member
        obtain ⟨task, inside, rfl⟩ := List.mem_map.mp member
        obtain ⟨content, _, rfl⟩ := List.mem_map.mp inside
        exact ⟨content, rfl⟩
    case inl =>
      simp only [noteDeed, opened, if_true]
      refine ⟨⟨stopping, steady, ?_⟩, heeds.altersHead _ _ ?_⟩
      · exact fun stopped => stops (isStopping_of_mapSession stopped fun _ => rfl)
      · intro session ledger newest newestLedger stopsLast
        -- The loop hands on only while the session is not being ended, so no stop is behind the request.
        have going : session.isStopping ≠ true := by
          intro stopped
          have whole : history.server.isStopping = true := by
            rw [Server.isStopping, show history.server.session = some session from newest]
            exact stopped
          cases resting.symm.trans (stops whole)
        refine stopsLast.cons (Ledger.handed_hand (waiting session ledger newest newestLedger) _ request) ?_ ?_ id
        · exact fun stopped => absurd stopped going
        · exact fun stop => absurd stop goesOn
  | setBreakpoints points =>
    cases performed
    refine ⟨⟨stopping, steady, stops⟩, ?_⟩
    have altered := heeds.altersHead id
      (·.undergo (.alter (history.server.breakpoints.replaceLines Location.scriptName points)))
      fun session ledger _ _ stopsLast => stopsLast.of_same rfl rfl
    rw [modifyHead_id] at altered
    exact altered
  | tellStack =>
    cases performed
    exact ⟨⟨stopping, steady, stops⟩, last⟩
  | adopt debuggee stopsOnEntry showsOutput script =>
    cases performed
    refine ⟨⟨false, steady, by simp [Server.isStopping, Server.session, Session.start]⟩, each_cons.mpr ⟨⟨?_, ?_⟩, last⟩⟩
    · simp [Ledger.handed, Ledger.start, Chronicle.start, Session.start]
    · simp [Ledger.handed, Ledger.start, Chronicle.start, Session.start]
  | listen =>
    cases performed
    refine ⟨⟨stopping, steady, ?_⟩, ?_⟩
    · exact fun stopped => stops (isStopping_of_mapSession stopped fun _ => rfl)
    · have altered := heeds.altersHead (fun session => { session with isHeard := true }) id
        fun session ledger _ _ stopsLast => stopsLast.of_same rfl rfl
      rw [modifyHead_id] at altered
      exact altered
  | stop =>
    cases performed
    refine ⟨⟨true, steady, fun _ => rfl⟩, heeds.altersHead _ _ ?_⟩
    intro session ledger newest newestLedger stopsLast
    refine stopsLast.cons (Ledger.handed_hand (waiting session ledger newest newestLedger) none .stop) ?_ ?_ ?_
    · exact fun _ => rfl
    · exact fun _ => rfl
    · exact fun _ => rfl
  | leave =>
    cases performed
    exact ⟨⟨stopping, steady, stops⟩, last⟩
  | awaitWorker =>
    obtain ⟨_, rfl, rfl⟩ := Server.perform?_awaitWorker performed
    exact ⟨⟨stopping, steady, stops⟩, last⟩
  | join =>
    obtain ⟨_, rfl, rfl⟩ := Server.perform?_join performed
    exact ⟨⟨stopping, steady, stops⟩, last⟩

theorem Happens.heeds {host : Host σ} {history later : History σ} (happens : Happens host history later)
    (sound : history.Sound) (heeds : history.Heeds) : later.Heeds := by
  have hands := happens.hands sound
  have begun : ∀ place ∈ later.runs, ∃ request, (some place, request) ∈ later.handed ∧ request.isRun = true := by
    intro place member
    cases hands with
    | nothing handed runs => exact handed ▸ heeds.begun place (runs ▸ member)
    | stops handed runs =>
      obtain ⟨request, inside, isRun⟩ := heeds.begun place (runs ▸ member)
      exact ⟨request, handed ▸ List.mem_cons_of_mem _ inside, isRun⟩
    | @submits request refusal rest tasks left asked handed runs =>
      rw [runs] at member
      rcases List.mem_append.mp member with old | new
      · obtain ⟨request, inside, isRun⟩ := heeds.begun place old
        exact ⟨request, handed ▸ List.mem_cons_of_mem _ inside, isRun⟩
      · cases isRun : request.isRun with
        | false => simp [isRun] at new
        | true =>
          simp only [isRun, if_true, List.mem_singleton] at new
          exact ⟨request, by rw [handed, new]; exact List.mem_cons_self, isRun⟩
  have begins : ∀ ledger ∈ later.ledgers, ledger.chronicle.Begins :=
    happens.chronicles sound Chronicle.begins_start (fun _ move _ begins => Chronicle.move_begins begins move) heeds.begins
  obtain ⟨stage, sound⟩ := sound
  obtain ⟨stopping, steady, stops⟩ := heeds.steady
  have last := heeds.last
  cases happens with
  | nothing => exact heeds
  | reads ready =>
    refine ⟨⟨false, ?_, ?_⟩, last, begun, begins⟩
    · rw [(isReady_iff.mp ready).2]
      exact steady_tasksFor ..
    · intro stopped
      exact absurd stopped (Bool.eq_false_iff.mp (heeds.ready ready))
  | ends | breaks => exact ⟨⟨true, nofun, fun _ => rfl⟩, last, begun, begins⟩
  | @loopWrites wire rest writes =>
    rw [writes.views, steady_written] at steady
    · exact ⟨⟨stopping, steady, stops⟩, last, begun, begins⟩
    · intro view member
      obtain ⟨message, _, rfl⟩ := List.mem_map.mp member
      exact ⟨_, rfl⟩
  | loopDoes tasks performed =>
    obtain ⟨steady, last⟩ := heeds.loopDoes sound tasks performed
    exact ⟨steady, last, begun, begins⟩
  | @workerWrites session former ledger wire rest sessions first busy writes =>
    obtain ⟨older, ledgers⟩ := List.head?_eq_some_iff.mp first
    rw [sessions, ledgers, each_cons] at last
    refine ⟨⟨stopping, steady, fun stopped => stops ?_⟩, ?_, begun, begins⟩
    · rw [Server.isStopping, Server.session, sessions]
      exact stopped
    · simp only [History.post, ledgers]
      exact each_cons.mpr ⟨last.1.of_same rfl rfl, last.2⟩
  | @workerDoes session former deed rest sessions tasks =>
    have session? : history.server.sessions[0]? = some session := by rw [sessions]; rfl
    obtain ⟨ledger, ledger?, _⟩ := sound.ledger session?
    have took : (Session.took deed { session with tasks := rest }).isStopping = session.isStopping ∧
        ledger.handed (Session.took deed { session with tasks := rest }) = ledger.handed session := by
      cases deed <;> exact ⟨rfl, rfl⟩
    have same := isStopping_set _ session? took.1
    have altered := last.setSession ledger? ((last 0 session ledger session? ledger?).of_same took.2 took.1)
    rw [sessions] at same altered
    exact ⟨⟨stopping, steady, fun stopped => stops (same.symm.trans stopped)⟩, altered, begun, begins⟩
  | @works session former ledger older after left sessions ledgers free worked =>
    have newest := sound.breakpoints ledger (by rw [ledgers]; rfl)
    have keeps := (sound.held 0 session ledger (by rw [sessions]; rfl) (by rw [ledgers]; rfl)).1
    have same : after.isStopping = session.isStopping := (Ledger.forwarding_work? worked).2.2.2.2
    rw [sessions, ledgers, each_cons] at last
    refine ⟨⟨stopping, steady, fun stopped => stops ?_⟩, ?_, begun, begins⟩
    · rw [Server.isStopping, Server.session, sessions, ← stopped]
      exact same.symm
    · exact each_cons.mpr ⟨last.1.of_same (Ledger.handed_work keeps worked) same, last.2⟩
  | @forwarderWrites age session ledger wire rest session? ledger? busy writes =>
    have same := isStopping_set { session with forwarding := rest } session? rfl
    refine ⟨⟨stopping, steady, fun stopped => stops (same.symm.trans stopped)⟩, ?_, begun, begins⟩
    exact heeds.altersAt session? ledger? rfl rfl
  | @showsFrames age session frames rest session? forwarding =>
    have same := isStopping_set { session with forwarding := rest } session? rfl
    refine ⟨⟨stopping, steady, fun stopped => stops (same.symm.trans stopped)⟩, ?_, begun, begins⟩
    obtain ⟨ledger, ledger?, _⟩ := sound.ledger session?
    exact last.setSession ledger? ((last age session ledger session? ledger?).of_same rfl rfl)
  | @hangsUp age session rest session? forwarding =>
    have same := isStopping_set { session with forwarding := rest, isHeard := false } session? rfl
    refine ⟨⟨stopping, steady, fun stopped => stops (same.symm.trans stopped)⟩, ?_, begun, begins⟩
    obtain ⟨ledger, ledger?, _⟩ := sound.ledger session?
    exact last.setSession ledger? ((last age session ledger session? ledger?).of_same rfl rfl)
  | @hears age session ledger event rest session? ledger? free events heard =>
    have same := isStopping_set
      { session with events := rest, forwarding := forward session.announcesEntry event } session? rfl
    refine ⟨⟨stopping, steady, fun stopped => stops (same.symm.trans stopped)⟩, ?_, begun, begins⟩
    exact heeds.altersAt session? ledger? rfl rfl

end History
end Adapter
end RStepper
