import Mathlib.Data.List.Basic
import RStepper.Proofs.EventProtocol

/-! One session and what is remembered of it. Whatever the client, the worker and the forwarder do, the reports
of the worker reach the forwarder in their order, and the forwarder writes what belongs to each of them. -/

namespace RStepper.Adapter
variable {σ : Type}

namespace Task
variable {α : Type}

/-- What a task is about, whether or not its message has a number already. -/
def view : Task α → Content ⊕ α
  | .write content => .inl content
  | .put message => .inl message.content
  | .own deed => .inr deed

def contents (tasks : List (Task α)) : List Content :=
  (tasks.map view).filterMap Sum.getLeft?

def deeds (tasks : List (Task α)) : List α :=
  (tasks.map view).filterMap Sum.getRight?

/-- The message that the next step puts on the wire. -/
def posted? : List (Task α) → Option Message
  | .put message :: _ => some message
  | _ => none

/-- A step of a writer: it puts a message on the wire, or it takes the number for one. -/
structure Writes (wire later : Wire) (tasks rest : List (Task α)) : Prop where
  views : tasks.map view = ((posted? tasks).toList.map fun message => .inl message.content) ++ rest.map view
  written : later.written = wire.written ++ (posted? tasks).toList

theorem next?_writes {wire later : Wire} {tasks rest : List (Task α)}
    (done : next? wire tasks = some (none, rest, later)) : Writes wire later tasks rest := by
  unfold next? at done
  split at done <;> cases done
  · exact ⟨rfl, (List.append_nil _).symm⟩
  · exact ⟨rfl, rfl⟩

theorem next?_own {wire later : Wire} {tasks rest : List (Task α)} {deed : α}
    (done : next? wire tasks = some (some deed, rest, later)) : tasks = .own deed :: rest ∧ later = wire := by
  unfold next? at done
  split at done <;> cases done
  exact ⟨rfl, rfl⟩

theorem next?_none {wire : Wire} {tasks : List (Task α)} (done : next? wire tasks = none) : tasks = [] := by
  unfold next? at done
  split at done <;> cases done
  rfl

@[simp] theorem contents_nil : contents ([] : List (Task α)) = [] := rfl

@[simp] theorem contents_write (content : Content) (rest : List (Task α)) :
    contents (.write content :: rest) = content :: contents rest := rfl

@[simp] theorem contents_put (message : Message) (rest : List (Task α)) :
    contents (.put message :: rest) = message.content :: contents rest := rfl

@[simp] theorem contents_own (deed : α) (rest : List (Task α)) : contents (.own deed :: rest) = contents rest := rfl

@[simp] theorem contents_append (first second : List (Task α)) :
    contents (first ++ second) = contents first ++ contents second := by
  simp [contents]

@[simp] theorem deeds_nil : deeds ([] : List (Task α)) = [] := rfl

@[simp] theorem deeds_write (content : Content) (rest : List (Task α)) : deeds (.write content :: rest) = deeds rest := rfl

@[simp] theorem deeds_put (message : Message) (rest : List (Task α)) : deeds (.put message :: rest) = deeds rest := rfl

@[simp] theorem deeds_own (deed : α) (rest : List (Task α)) : deeds (.own deed :: rest) = deed :: deeds rest := rfl

@[simp] theorem deeds_append (first second : List (Task α)) : deeds (first ++ second) = deeds first ++ deeds second := by
  simp [deeds]

theorem Writes.contents {wire later : Wire} {tasks rest : List (Task α)} (writes : Writes wire later tasks rest) :
    Task.contents tasks = (posted? tasks).toList.map Message.content ++ Task.contents rest := by
  rw [Task.contents, writes.views, List.filterMap_append, Task.contents]
  cases posted? tasks <;> rfl

theorem Writes.deeds {wire later : Wire} {tasks rest : List (Task α)} (writes : Writes wire later tasks rest) :
    Task.deeds tasks = Task.deeds rest := by
  rw [Task.deeds, writes.views, List.filterMap_append, Task.deeds]
  cases posted? tasks <;> rfl

end Task

def WorkerDeed.report? : WorkerDeed → Option Event
  | .report event => some event
  | .close => none

namespace Session

def reporting? (session : Session σ) : List Event :=
  (Task.deeds session.tasks).filterMap WorkerDeed.report?

/-- The worker takes no more requests, or is about to. -/
def Closes (session : Session σ) : Prop :=
  .close ∈ Task.deeds session.tasks ∨ session.isOpen = false

end Session

/-- What is remembered of a session. -/
structure Ledger (σ : Type) where
  /-- All that happened to its worker. -/
  chronicle : Chronicle σ
  /-- The causes of the requests that wait for the worker. -/
  waiting : List (Option Nat)
  /-- The causes of the requests that the worker took up, newest first. -/
  taken : List (Option Nat)
  /-- The number of reports that the forwarder took. -/
  heard : Nat
  /-- What the forwarder wrote, and the causes. -/
  forwarded : List (Option Nat × Content)

namespace Ledger

def start (debuggee : Debuggee σ) (breakpoints : Breakpoints) : Ledger σ :=
  ⟨.start debuggee breakpoints, [], [], 0, []⟩

def cause (ledger : Ledger σ) : Option Nat :=
  ledger.taken.head?.join

/-- All reports of the worker and their causes, oldest first. -/
def reports (ledger : Ledger σ) : List (Option Nat × Event) :=
  ledger.chronicle.opening.map (none, ·) ++
    (ledger.taken.zip ledger.chronicle.accounts).reverse.flatMap fun (cause, account) =>
      account.reports.map fun report => (cause, report.event)

def told (ledger : Ledger σ) : List (Option Nat × Event) :=
  ledger.reports.take ledger.heard

def latest? (ledger : Ledger σ) : Option (Option Nat × Event) :=
  ledger.told.getLast?

def hand (ledger : Ledger σ) (cause : Option Nat) : Ledger σ :=
  { ledger with waiting := ledger.waiting ++ [cause] }

@[simp] theorem reports_hand (ledger : Ledger σ) (cause : Option Nat) : (ledger.hand cause).reports = ledger.reports := rfl

@[simp] theorem told_hand (ledger : Ledger σ) (cause : Option Nat) : (ledger.hand cause).told = ledger.told := rfl

def undergo [Interpreter σ] (ledger : Ledger σ) (move : Move) : Ledger σ :=
  { ledger with chronicle := ledger.chronicle.move move }

def latestCause (ledger : Ledger σ) : Option Nat :=
  ledger.latest?.bind Prod.fst

def work [Interpreter σ] (ledger : Ledger σ) (session : Session σ) : Ledger σ :=
  match session.worker.activity, session.requests with
  | .idle, request :: _ =>
    { ledger with
      chronicle := ledger.chronicle.move (.request request)
      waiting := ledger.waiting.tail
      taken := ledger.waiting.head?.join :: ledger.taken }
  | .running _, _ => ledger.undergo .leg
  | .stalled _, _ => ledger.undergo .release
  | _, _ => ledger

/-- What the forwarder writes of a report, and the cause of it. -/
def tellings (announcesEntry : Bool) (report : Option Nat × Event) : List (Option Nat × Content) :=
  (Task.contents (forward announcesEntry report.2)).map (report.1, ·)

/-- What a session has in hand is what its ledger has still to account for. -/
structure Keeps [Interpreter σ] (ledger : Ledger σ) (session : Session σ) : Prop where
  worker : ledger.chronicle.worker = session.worker
  isStopping : ledger.chronicle.isStopping = session.isStopping
  consistent : ledger.chronicle.Consistent
  waiting : ledger.waiting.length = session.requests.length
  taken : ledger.taken.length = ledger.chronicle.accounts.length
  heard : ledger.heard ≤ ledger.reports.length
  reported : (ledger.reports.drop ledger.heard).map Prod.snd = session.events ++ session.reporting?
  forwarded : ledger.forwarded ++ (Task.contents session.forwarding).map (ledger.latestCause, ·) =
    ledger.told.flatMap (tellings session.announcesEntry)
  forwarding : session.forwarding.map Task.view <:+
    ledger.latest?.elim [] fun report => (forward session.announcesEntry report.2).map Task.view
  outputs : ∀ content ∈ Task.contents session.tasks, ∃ body, content = .event "output" (some body)
  closes : session.worker.hasEnded = true ↔ session.Closes
  /-- Nobody listens before the first report or behind the last one. -/
  unheard : session.isHeard = false → session.forwarding = [] ∧
    (ledger.heard = 0 ∨ ∃ report, ledger.latest? = some report ∧ report.2.EndsSession)

theorem map_reports {ledger : Ledger σ} (taken : ledger.taken.length = ledger.chronicle.accounts.length) :
    ledger.reports.map Prod.snd = ledger.chronicle.events := by
  have unlabelled (pairs : List (Option Nat × Account σ)) :
      (pairs.flatMap fun (cause, account) => account.reports.map fun report => (cause, report.event)).map Prod.snd =
        (pairs.map Prod.snd).flatMap fun account => account.reports.map Report.event := by
    induction pairs with
    | nil => rfl
    | cons pair rest ih => simp [ih]
  have accounts : ((ledger.taken.zip ledger.chronicle.accounts).map Prod.snd) = ledger.chronicle.accounts :=
    List.map_snd_zip (by omega)
  simp only [reports, Chronicle.events, List.map_append, List.map_map, unlabelled, List.map_reverse, accounts]
  simp [Function.comp_def]

theorem reports_noted (ledger : Ledger σ) {chronicle : Chronicle σ} {cause : Option Nat} {older : List (Option Nat)}
    {accounts : List (Account σ)} (events : List Event) (isStopping : Bool)
    (opening : chronicle.opening = ledger.chronicle.opening) (taken : ledger.taken = cause :: older)
    (known : ledger.chronicle.accounts = accounts) (asked : accounts ≠ [])
    (noted : chronicle.accounts = Chronicle.noted events isStopping accounts) :
    ({ ledger with chronicle } : Ledger σ).reports = ledger.reports ++ events.map (cause, ·) := by
  cases accounts with
  | nil => exact absurd rfl asked
  | cons newest rest =>
    simp only [reports, opening, taken, known, noted, Chronicle.noted, List.zip_cons_cons, List.reverse_cons,
      List.flatMap_append, List.flatMap_singleton, List.map_append, List.append_assoc]
    simp [Function.comp_def]

theorem deeds_reporting (events : List Event) (worker : Worker σ) :
    Task.deeds (Session.reporting events worker) =
      events.map WorkerDeed.report ++ if worker.hasEnded then [.close] else [] := by
  have reports : Task.deeds (events.map fun event => Task.own (WorkerDeed.report event)) = events.map .report := by
    induction events with
    | nil => rfl
    | cons event rest ih => simp [ih]
  rw [Session.reporting, Task.deeds_append, reports]
  cases worker.hasEnded <;> rfl

theorem contents_reporting (events : List Event) (worker : Worker σ) :
    Task.contents (Session.reporting events worker) = [] := by
  have reports : Task.contents (events.map fun event => Task.own (WorkerDeed.report event)) = [] := by
    induction events with
    | nil => rfl
    | cons event rest ih => simp [ih]
  rw [Session.reporting, Task.contents_append, reports]
  cases worker.hasEnded <;> rfl

theorem deeds_of_reporting {tasks : List (Task WorkerDeed)} {events : List Event} {worker : Worker σ}
    (same : Task.deeds tasks = Task.deeds (Session.reporting events worker)) :
    (Task.deeds tasks).filterMap WorkerDeed.report? = events ∧ (.close ∈ Task.deeds tasks ↔ worker.hasEnded = true) := by
  have reports : (events.map WorkerDeed.report).filterMap WorkerDeed.report? = events := by
    simp [List.filterMap_map, Function.comp_def, WorkerDeed.report?]
  rw [same, deeds_reporting, List.filterMap_append, reports]
  cases worker.hasEnded <;> simp [WorkerDeed.report?]

theorem tasks_behind (session : Session σ) (turn : Turn σ) :
    (∃ records : List Record, Task.contents (session.behind turn).tasks = records.map outputEvent) ∧
      Task.deeds (session.behind turn).tasks = Task.deeds (Session.reporting turn.events turn.worker) := by
  have written (records : List Record) :
      Task.contents (records.map fun record => (.write (outputEvent record) : Task WorkerDeed)) = records.map outputEvent ∧
      Task.deeds (records.map fun record => (.write (outputEvent record) : Task WorkerDeed)) = [] := by
    induction records with
    | nil => exact ⟨rfl, rfl⟩
    | cons record rest ih => simp [ih]
  have shown : ∃ records : List Record, (session.behind turn).tasks =
      records.map (fun record => .write (outputEvent record)) ++ Session.reporting turn.events turn.worker := by
    unfold Session.behind
    dsimp only
    split
    · exact ⟨_, rfl⟩
    · exact ⟨[], rfl⟩
  obtain ⟨records, tasks⟩ := shown
  rw [tasks, Task.contents_append, Task.deeds_append, contents_reporting, (written records).1, (written records).2]
  exact ⟨⟨records, List.append_nil _⟩, rfl⟩

theorem reporting?_behind (session : Session σ) (turn : Turn σ) : (session.behind turn).reporting? = turn.events :=
  (deeds_of_reporting (tasks_behind session turn).2).1

variable [Interpreter σ]

theorem keeps_start (debuggee : Debuggee σ) (breakpoints : Breakpoints) (announcesEntry showsOutput : Bool) :
    (start debuggee breakpoints).Keeps (.start debuggee announcesEntry showsOutput) := by
  obtain ⟨reports, closes⟩ := deeds_of_reporting
    (rfl : _ = Task.deeds (Session.reporting (Worker.start debuggee).1 (Worker.start debuggee).2))
  constructor
  case consistent => exact Chronicle.consistent_start debuggee breakpoints
  case reported =>
    change (((Worker.start debuggee).1.map (none, ·) ++ []).drop 0).map Prod.snd = [] ++ List.filterMap _ _
    simp [reports, Session.start, Function.comp_def]
  case outputs => simp [Session.start, contents_reporting]
  case closes =>
    change _ ↔ _ ∨ true = false
    rw [Session.start, closes]
    simp
  case heard => exact Nat.zero_le _
  case unheard => exact fun _ => ⟨rfl, .inl rfl⟩
  case forwarding => exact List.suffix_rfl
  all_goals rfl

/-! What the client does. -/

theorem Keeps.hand {ledger : Ledger σ} {session : Session σ} (keeps : ledger.Keeps session) (cause : Option Nat)
    (request : Request) :
    (ledger.hand cause).Keeps { session with requests := session.requests ++ [request] } where
  __ := keeps
  waiting := by simp [Ledger.hand, keeps.waiting]

theorem Keeps.alter {ledger : Ledger σ} {session : Session σ} (keeps : ledger.Keeps session)
    (breakpoints : Breakpoints) : (ledger.undergo (.alter breakpoints)).Keeps session where
  __ := keeps
  consistent := Chronicle.move_consistent (.alter breakpoints) keeps.consistent

theorem Keeps.shutdown {ledger : Ledger σ} {session : Session σ} (keeps : ledger.Keeps session) :
    (ledger.undergo .shutdown).Keeps { session with isStopping := true } where
  __ := keeps
  isStopping := rfl
  consistent := Chronicle.move_consistent .shutdown keeps.consistent

theorem Keeps.listen {ledger : Ledger σ} {session : Session σ} (keeps : ledger.Keeps session) :
    ledger.Keeps { session with isHeard := true } where
  __ := keeps
  unheard := nofun

@[simp] theorem reports_alter (ledger : Ledger σ) (breakpoints : Breakpoints) :
    (ledger.undergo (.alter breakpoints)).reports = ledger.reports := rfl

@[simp] theorem reports_shutdown (ledger : Ledger σ) : (ledger.undergo .shutdown).reports = ledger.reports := rfl

@[simp] theorem told_alter (ledger : Ledger σ) (breakpoints : Breakpoints) :
    (ledger.undergo (.alter breakpoints)).told = ledger.told := rfl

@[simp] theorem told_shutdown (ledger : Ledger σ) : (ledger.undergo .shutdown).told = ledger.told := rfl

/-! What the worker does. -/

theorem Keeps.workerWrites {ledger : Ledger σ} {session : Session σ} (keeps : ledger.Keeps session) {wire later : Wire}
    {rest : List (Task WorkerDeed)} (writes : Task.Writes wire later session.tasks rest) :
    ledger.Keeps { session with tasks := rest } where
  __ := keeps
  reported := by simpa [Session.reporting?, writes.deeds] using keeps.reported
  outputs content member := keeps.outputs content (by simp [writes.contents, member])
  closes := by simpa [Session.Closes, writes.deeds] using keeps.closes

theorem Keeps.reports {ledger : Ledger σ} {session : Session σ} (keeps : ledger.Keeps session) {event : Event}
    {rest : List (Task WorkerDeed)} (tasks : session.tasks = .own (.report event) :: rest) :
    ledger.Keeps { session with tasks := rest, events := session.events ++ [event] } where
  __ := keeps
  reported := by simpa [Session.reporting?, WorkerDeed.report?, tasks] using keeps.reported
  outputs := by simpa [tasks] using keeps.outputs
  closes := by simpa [Session.Closes, tasks] using keeps.closes

theorem Keeps.closing {ledger : Ledger σ} {session : Session σ} (keeps : ledger.Keeps session)
    {rest : List (Task WorkerDeed)} (tasks : session.tasks = .own .close :: rest) :
    ledger.Keeps { session with tasks := rest, isOpen := false } where
  __ := keeps
  reported := by simpa [Session.reporting?, List.filterMap_cons, WorkerDeed.report?, tasks] using keeps.reported
  outputs := by simpa [tasks] using keeps.outputs
  closes := ⟨fun _ => .inr rfl, fun _ => keeps.closes.mpr (.inl (by simp [tasks]))⟩

omit [Interpreter σ] in
theorem told_of_reports {ledger later : Ledger σ} {more : List (Option Nat × Event)} (heard : ledger.heard ≤ ledger.reports.length)
    (same : later.heard = ledger.heard) (reports : later.reports = ledger.reports ++ more) : later.told = ledger.told := by
  rw [told, same, reports]
  exact List.take_append_of_le_length heard

theorem Keeps.behind {ledger : Ledger σ} {session : Session σ} (keeps : ledger.Keeps session) {chronicle : Chronicle σ}
    {waiting taken : List (Option Nat)} (requests : List Request) {turn : Turn σ} {cause : Option Nat}
    (going : session.worker.hasEnded = false) (worker : chronicle.worker = turn.worker)
    (isStopping : chronicle.isStopping = ledger.chronicle.isStopping) (consistent : chronicle.Consistent)
    (waits : waiting.length = requests.length) (takes : taken.length = chronicle.accounts.length) (free : session.tasks = [])
    (reported : (⟨chronicle, waiting, taken, ledger.heard, ledger.forwarded⟩ : Ledger σ).reports =
      ledger.reports ++ turn.events.map (cause, ·)) :
    (⟨chronicle, waiting, taken, ledger.heard, ledger.forwarded⟩ : Ledger σ).Keeps
      ({ session with requests }.behind turn) := by
  let later : Ledger σ := ⟨chronicle, waiting, taken, ledger.heard, ledger.forwarded⟩
  have told : later.told = ledger.told := told_of_reports keeps.heard rfl reported
  have latest : later.latest? = ledger.latest? := by rw [Ledger.latest?, told, Ledger.latest?]
  have latestCause : later.latestCause = ledger.latestCause := by rw [Ledger.latestCause, latest, Ledger.latestCause]
  obtain ⟨⟨records, contents⟩, deeds⟩ := tasks_behind { session with requests } turn
  obtain ⟨reports, closes⟩ := deeds_of_reporting deeds
  have silent : session.reporting? = [] := by rw [Session.reporting?, free]; rfl
  have isOpen : session.isOpen = true := by
    cases closed : session.isOpen with
    | true => rfl
    | false => cases going.symm.trans (keeps.closes.mpr (.inr closed))
  constructor
  case worker => exact worker
  case isStopping => exact isStopping.trans keeps.isStopping
  case consistent => exact consistent
  case waiting => exact waits
  case taken => exact takes
  case heard =>
    rw [reported, List.length_append]
    exact Nat.le_trans keeps.heard (Nat.le_add_right _ _)
  case reported =>
    rw [reported, List.drop_append_of_le_length keeps.heard, List.map_append, keeps.reported, silent]
    change _ = session.events ++ List.filterMap WorkerDeed.report? _
    rw [reports]
    simp [Function.comp_def]
  case forwarded => exact latestCause ▸ told ▸ keeps.forwarded
  case forwarding => exact latest ▸ keeps.forwarding
  case outputs =>
    intro content member
    rw [contents] at member
    obtain ⟨record, _, rfl⟩ := List.mem_map.mp member
    exact ⟨_, rfl⟩
  case closes =>
    rw [Session.Closes, closes]
    change _ ↔ _ ∨ session.isOpen = false
    rw [isOpen]
    simp [Session.behind]
  case unheard => exact latest ▸ keeps.unheard

theorem Keeps.busy {ledger : Ledger σ} {session : Session σ} (keeps : ledger.Keeps session)
    (busy : session.worker.isRunning = true ∨ ∃ withheld, session.worker.activity = .stalled withheld) :
    ∃ cause causes newest older, ledger.taken = cause :: causes ∧ ledger.chronicle.accounts = newest :: older ∧
      ledger.cause = cause := by
  have present := keeps.consistent.present
  have asked : ledger.chronicle.accounts ≠ [] := by
    intro none
    rw [none, keeps.worker] at present
    unfold Worker.isRunning at busy
    generalize session.worker.activity = activity at present busy
    cases present <;> simp at busy
  obtain ⟨newest, older, accounts⟩ := List.exists_cons_of_ne_nil asked
  have taken := keeps.taken
  rw [accounts] at taken
  obtain ⟨cause, causes, causesEq⟩ := List.exists_cons_of_length_eq_add_one taken
  exact ⟨cause, causes, newest, older, causesEq, accounts, by simp [Ledger.cause, causesEq]⟩

omit [Interpreter σ] in
theorem length_noted (events : List Event) (isStopping : Bool) (accounts : List (Account σ)) :
    (Chronicle.noted events isStopping accounts).length = accounts.length := by
  cases accounts <;> rfl

theorem Keeps.goesOn {ledger : Ledger σ} {session : Session σ} (keeps : ledger.Keeps session) (free : session.tasks = [])
    (move : Move) {turn : Turn σ} {isStopping : Bool}
    (busy : session.worker.isRunning = true ∨ ∃ withheld, session.worker.activity = .stalled withheld)
    (worker : (ledger.chronicle.move move).worker = turn.worker)
    (stopping : (ledger.chronicle.move move).isStopping = ledger.chronicle.isStopping)
    (accounts : (ledger.chronicle.move move).accounts =
      Chronicle.noted turn.events isStopping ledger.chronicle.accounts) :
    (ledger.undergo move).Keeps (session.behind turn) ∧
      (ledger.undergo move).reports = ledger.reports ++ turn.events.map (ledger.cause, ·) := by
  obtain ⟨cause, causes, newest, older, taken, known, current⟩ := keeps.busy busy
  have asked : newest :: older ≠ [] := List.cons_ne_nil _ _
  have reported : (ledger.undergo move).reports = ledger.reports ++ turn.events.map (ledger.cause, ·) := by
    rw [current]
    exact reports_noted ledger turn.events isStopping (Chronicle.opening_move _ _) taken known asked (known ▸ accounts)
  refine ⟨?_, reported⟩
  apply keeps.behind session.requests ?_ worker stopping ?_ keeps.waiting ?_ free reported
  · unfold Worker.isRunning at busy
    unfold Worker.hasEnded
    generalize session.worker.activity = activity at busy
    cases activity <;> simp at busy ⊢
  · exact Chronicle.move_consistent move keeps.consistent
  · rw [accounts, length_noted]
    exact keeps.taken

theorem work_heard (ledger : Ledger σ) (session : Session σ) :
    (ledger.work session).heard = ledger.heard ∧ (ledger.work session).forwarded = ledger.forwarded := by
  unfold work
  split <;> exact ⟨rfl, rfl⟩

/-- A turn of the worker adds reports for the request that it is at then. -/
theorem Keeps.works {ledger : Ledger σ} {session later : Session σ} {left : Breakpoints} (keeps : ledger.Keeps session)
    (free : session.tasks = []) (worked : session.work? ledger.chronicle.breakpoints = some (later, left)) :
    (ledger.work session).Keeps later ∧ (ledger.work session).chronicle.breakpoints = left ∧
      ∃ events : List Event, (ledger.work session).reports = ledger.reports ++ events.map ((ledger.work session).cause, ·) := by
  cases Session.work?_cases worked with
  | @leg run activity =>
    have runs : ledger.chronicle.worker.activity = .running run := by rw [keeps.worker, activity]
    have moves := Chronicle.move_leg runs
    rw [keeps.worker, keeps.isStopping] at moves
    have busy : session.worker.isRunning = true := by simp [Worker.isRunning, activity]
    have went := keeps.goesOn free .leg (.inl busy) (congrArg Chronicle.worker moves)
      ((congrArg Chronicle.isStopping moves).trans keeps.isStopping.symm) (congrArg Chronicle.accounts moves)
    have work : ledger.work session = ledger.undergo .leg := by simp [Ledger.work, activity]
    rw [work]
    exact ⟨went.1, congrArg Chronicle.breakpoints moves, _, went.2⟩
  | @takes request rest activity requests =>
    have idle : ledger.chronicle.worker.activity = .idle := by rw [keeps.worker, activity]
    have moves := Chronicle.move_request idle request
    rw [keeps.worker, keeps.isStopping] at moves
    have work : ledger.work session = ⟨ledger.chronicle.move (.request request), ledger.waiting.tail,
        ledger.waiting.head?.join :: ledger.taken, ledger.heard, ledger.forwarded⟩ := by
      simp [Ledger.work, activity, requests]
    -- The request is put down before its first report, so that the turn reports of the newest request here too.
    let account : Account σ := ⟨request, session.worker.debuggee, []⟩
    let turn := Worker.take session.isStopping ledger.chronicle.breakpoints request session.worker.debuggee
    let pushed : Ledger σ :=
      { ledger with
        chronicle := { ledger.chronicle with accounts := account :: ledger.chronicle.accounts, legs := 0 }
        taken := ledger.waiting.head?.join :: ledger.taken }
    have same : pushed.reports = ledger.reports := by simp [Ledger.reports, pushed, account]
    have accounts : (ledger.chronicle.move (.request request)).accounts =
        Chronicle.noted turn.events session.isStopping (account :: ledger.chronicle.accounts) :=
      congrArg Chronicle.accounts moves
    have reported : (ledger.work session).reports = ledger.reports ++ turn.events.map (ledger.waiting.head?.join, ·) := by
      rw [work, ← same]
      exact reports_noted pushed turn.events session.isStopping (Chronicle.opening_move _ _) rfl rfl
        (List.cons_ne_nil _ _) accounts
    have waits : ledger.waiting.tail.length = rest.length := by simp [keeps.waiting, requests]
    have cause : (ledger.work session).cause = ledger.waiting.head?.join := by rw [work]; rfl
    rw [cause]
    refine ⟨?_, by rw [work]; exact congrArg Chronicle.breakpoints moves, _, reported⟩
    rw [work] at reported ⊢
    apply keeps.behind rest ?_ (congrArg Chronicle.worker moves) ?_ ?_ waits ?_ free reported
    · simp [Worker.hasEnded, activity]
    · exact (congrArg Chronicle.isStopping moves).trans keeps.isStopping.symm
    · exact Chronicle.move_consistent _ keeps.consistent
    · simp [accounts, length_noted, keeps.taken]
  | @releases withheld activity stopping =>
    have stalls : ledger.chronicle.worker.activity = .stalled withheld := by rw [keeps.worker, activity]
    have moves : ledger.chronicle.move .release = ledger.chronicle.behind
        ⟨session.worker.release.1, ledger.chronicle.breakpoints, session.worker.release.2⟩ := by
      simp [Chronicle.move, keeps.isStopping, stopping, keeps.worker]
    have went := keeps.goesOn free .release (.inr ⟨withheld, activity⟩) (congrArg Chronicle.worker moves)
      (by rw [moves]; rfl) (congrArg Chronicle.accounts moves)
    have work : ledger.work session = ledger.undergo .release := by simp [Ledger.work, activity]
    have breakpoints : (ledger.chronicle.move .release).breakpoints = ledger.chronicle.breakpoints := by rw [moves]; rfl
    rw [work]
    exact ⟨went.1, breakpoints, _, went.2⟩

theorem forwarding_work? {session later : Session σ} {breakpoints left : Breakpoints}
    (worked : session.work? breakpoints = some (later, left)) :
    later.isHeard = session.isHeard ∧ later.events = session.events ∧ later.forwarding = session.forwarding ∧
      later.announcesEntry = session.announcesEntry ∧ later.isStopping = session.isStopping := by
  cases Session.work?_cases worked <;> exact ⟨rfl, rfl, rfl, rfl, rfl⟩

/-! What the forwarder does. -/

def wrote (ledger : Ledger σ) (messages : List Message) : Ledger σ :=
  { ledger with forwarded := ledger.forwarded ++ messages.map (ledger.latestCause, ·.content) }

theorem Keeps.forwarderWrites {ledger : Ledger σ} {session : Session σ} (keeps : ledger.Keeps session) {wire later : Wire}
    {rest : List (Task ForwarderDeed)} (writes : Task.Writes wire later session.forwarding rest) (busy : session.forwarding ≠ []) :
    (ledger.wrote (Task.posted? session.forwarding).toList).Keeps { session with forwarding := rest } where
  __ := keeps
  forwarded := by
    have forwarded := keeps.forwarded
    rw [writes.contents, List.map_append, List.map_map, ← List.append_assoc] at forwarded
    exact forwarded
  forwarding := by
    have whole := keeps.forwarding
    rw [writes.views] at whole
    exact (List.suffix_append _ _).trans whole
  unheard silent := absurd (keeps.unheard silent).1 busy

theorem Keeps.showsFrames {ledger : Ledger σ} {session : Session σ} (keeps : ledger.Keeps session)
    {frames : List Location} {rest : List (Task ForwarderDeed)}
    (forwarding : session.forwarding = .own (.showFrames frames) :: rest) :
    ledger.Keeps { session with forwarding := rest } where
  __ := keeps
  forwarded := by simpa [forwarding] using keeps.forwarded
  forwarding := by
    have whole := keeps.forwarding
    rw [forwarding, List.map_cons] at whole
    exact (List.suffix_cons _ _).trans whole
  unheard silent := by cases forwarding.symm.trans (keeps.unheard silent).1

theorem forward_hangUp {announcesEntry : Bool} {event : Event} {rest : List (Content ⊕ ForwarderDeed)}
    (suffix : .inr .hangUp :: rest <:+ (forward announcesEntry event).map Task.view) :
    rest = [] ∧ event.EndsSession := by
  obtain ⟨front, whole⟩ := suffix
  cases event with
  | stopped stop =>
    exfalso
    have member : .inr .hangUp ∈ (forward announcesEntry (.stopped stop)).map Task.view := by simp [← whole]
    unfold forward at member
    dsimp only at member
    split at member <;> simp [Task.view] at member
  | terminated =>
    refine ⟨?_, trivial⟩
    rcases front with _ | ⟨_, _ | ⟨_, front⟩⟩ <;> simp_all [forward, Task.view]
  | failed message =>
    refine ⟨?_, trivial⟩
    rcases front with _ | ⟨_, _ | ⟨_, _ | ⟨_, front⟩⟩⟩ <;> simp_all [forward, Task.view]
  | _ =>
    exfalso
    rcases front with _ | ⟨_, _ | _⟩ <;> simp [forward, Task.view] at whole

/-- The forwarder hangs up behind the end of the session, and then it has nothing left to write. -/
theorem Keeps.endsBehind {ledger : Ledger σ} {session : Session σ} (keeps : ledger.Keeps session)
    {rest : List (Task ForwarderDeed)} (forwarding : session.forwarding = .own .hangUp :: rest) :
    rest = [] ∧ ∃ report, ledger.latest? = some report ∧ report.2.EndsSession := by
  have whole := keeps.forwarding
  rw [forwarding, List.map_cons] at whole
  cases latest : ledger.latest? with
  | none =>
    rw [latest] at whole
    cases List.suffix_nil.mp whole
  | some report =>
    rw [latest] at whole
    obtain ⟨none, ends⟩ := forward_hangUp whole
    exact ⟨List.map_eq_nil_iff.mp none, report, rfl, ends⟩

theorem Keeps.hangsUp {ledger : Ledger σ} {session : Session σ} (keeps : ledger.Keeps session)
    {rest : List (Task ForwarderDeed)} (forwarding : session.forwarding = .own .hangUp :: rest) :
    ledger.Keeps { session with forwarding := rest, isHeard := false } where
  __ := keeps
  forwarded := by simpa [forwarding] using keeps.forwarded
  forwarding := by
    have whole := keeps.forwarding
    rw [forwarding, List.map_cons] at whole
    exact (List.suffix_cons _ _).trans whole
  unheard _ := (keeps.endsBehind forwarding).imp_right .inr

theorem Keeps.next {ledger : Ledger σ} {session : Session σ} (keeps : ledger.Keeps session) {event : Event}
    {rest : List Event} (events : session.events = event :: rest) :
    ∃ cause untold, ledger.reports = ledger.told ++ (cause, event) :: untold ∧
      untold.map Prod.snd = rest ++ session.reporting? ∧
      ({ ledger with heard := ledger.heard + 1 } : Ledger σ).told = ledger.told ++ [(cause, event)] := by
  let later : Ledger σ := { ledger with heard := ledger.heard + 1 }
  have reported := keeps.reported
  rw [events, List.cons_append] at reported
  obtain ⟨⟨cause, same⟩, untold, next, rfl, remaining⟩ := List.map_eq_cons_iff.mp reported
  have whole : ledger.reports = ledger.told ++ (cause, same) :: untold := by
    rw [Ledger.told, ← next, List.take_append_drop]
  have length : ledger.told.length = ledger.heard := List.length_take_of_le keeps.heard
  refine ⟨cause, untold, whole, remaining, ?_⟩
  change later.reports.take (ledger.heard + 1) = _
  have reports : later.reports = ledger.told ++ (cause, same) :: untold := whole
  rw [reports, ← length, List.take_length_add_append]
  rfl

theorem Keeps.hears {ledger : Ledger σ} {session : Session σ} (keeps : ledger.Keeps session) {event : Event}
    {rest : List Event} (events : session.events = event :: rest) (free : session.forwarding = [])
    (heard : session.isHeard = true) :
    ({ ledger with heard := ledger.heard + 1 } : Ledger σ).Keeps
      { session with events := rest, forwarding := forward session.announcesEntry event } := by
  let later : Ledger σ := { ledger with heard := ledger.heard + 1 }
  obtain ⟨cause, untold, whole, remaining, told⟩ := keeps.next events
  have length : ledger.told.length = ledger.heard := List.length_take_of_le keeps.heard
  have latest : later.latest? = some (cause, event) := by simp [later, Ledger.latest?, told]
  have forwarded := keeps.forwarded
  rw [free, Task.contents_nil, List.map_nil, List.append_nil] at forwarded
  exact {
    keeps with
    heard := by
      change ledger.heard + 1 ≤ ledger.reports.length
      rw [whole, List.length_append, length, List.length_cons]
      omega
    reported := by
      change (ledger.reports.drop (ledger.heard + 1)).map Prod.snd = rest ++ _
      rw [whole, ← length, List.drop_length_add_append]
      exact remaining
    forwarded := by
      change ledger.forwarded ++ (Task.contents (forward session.announcesEntry event)).map (later.latestCause, ·) =
        later.told.flatMap (tellings session.announcesEntry)
      rw [told, List.flatMap_append, forwarded, List.flatMap_singleton, tellings, Ledger.latestCause, latest]
      rfl
    forwarding := by
      rw [latest]
      exact List.suffix_rfl
    unheard := fun silent => by cases heard.symm.trans silent }

end Ledger
end RStepper.Adapter
