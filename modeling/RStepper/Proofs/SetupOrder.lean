import RStepper.Interpreter.Scripted
import RStepper.Proofs.StopRequests

/-! The order in which a client launches a program and ends the configuration. The run that the end of the configuration
asks for is handed to a worker only if there is one, so it is kept if the program was launched before, and lost if not. -/

namespace RStepper.Adapter
variable {σ : Type}

/-- Commands by which a client sets a session up and looks at it, or which nobody knows. They neither run the program
nor ask the worker, and they end no service. -/
def SettingUp (command : String) : Prop :=
  ¬ Stepping command ∧ ¬ Inspecting command ∧ ¬ Closing command

instance (command : String) : Decidable (Stepping command) :=
  inferInstanceAs (Decidable (_ ∨ _))

instance (command : String) : Decidable (Inspecting command) :=
  inferInstanceAs (Decidable (_ ∨ _))

instance (command : String) : Decidable (Closing command) :=
  inferInstanceAs (Decidable (_ ∨ _))

instance (command : String) : Decidable (SettingUp command) :=
  inferInstanceAs (Decidable (_ ∧ _))

/-- The end of the configuration was asked for behind a launch. -/
def Configured (commands : List String) : Prop :=
  ["launch", "configurationDone"].Sublist commands

instance (commands : List String) : Decidable (Configured commands) :=
  inferInstanceAs (Decidable (List.Sublist _ _))

theorem configured_concat {commands : List String} {command : String} :
    Configured (commands ++ [command]) ↔ Configured commands ∨ "launch" ∈ commands ∧ command = "configurationDone" := by
  unfold Configured
  rw [← List.reverse_sublist, List.reverse_concat, ← @List.reverse_sublist _ _ commands]
  simp only [List.reverse_cons, List.reverse_nil, List.nil_append, List.cons_append, List.cons_sublist_cons',
    List.singleton_sublist, List.mem_reverse]
  exact or_congr_right ⟨fun ⟨same, launched⟩ => ⟨launched, same.symm⟩, fun ⟨launched, same⟩ => ⟨same.symm, launched⟩⟩

theorem Configured.launched {commands : List String} (configured : Configured commands) : "launch" ∈ commands :=
  configured.subset List.mem_cons_self

theorem Configured.asked {commands : List String} (configured : Configured commands) : "configurationDone" ∈ commands :=
  configured.subset (List.mem_cons_of_mem _ List.mem_cons_self)

/-- The runs that a worker is due: one behind the configuration of a launch that does not stop on entry. -/
def due (launch : Launch) (commands : List String) : List Request :=
  if launch.stopsOnEntry = false ∧ Configured commands then [.run .resume] else []

/-- A client that sets a session up: it launches with the same arguments at all times, and neither runs the program, looks
into it nor goes away. -/
def Occurrence.SetsUp (arguments : Option Json) : Occurrence → Prop
  | .read message => ∀ command given, message.content = .request command given →
      SettingUp command ∧ (command = "launch" → given = arguments)
  | .step _ => True
  | .inputEnd | .fault => False

/-- A deed that leaves the sessions of a server in their places. -/
def LoopDeed.IsPlain : LoopDeed σ → Prop
  | .setBreakpoints _ | .tellStack .. | .submit .. | .listen => True
  | _ => False

/-- A deed of the loop on the way to a new session. -/
def LoopDeed.MakesWay : LoopDeed σ → Prop
  | .stop | .awaitWorker => True
  | _ => False

/-- The request that a message grants. -/
def Content.grants? : Content → Option (Nat × String)
  | .response number true command _ _ => some (number, command)
  | _ => none

/-- A worker began as it does for a program, whatever has happened to it since. -/
def OpensWith [Interpreter σ] (debuggee : Debuggee σ) (chronicle : Chronicle σ) : Prop :=
  chronicle.Begins ∧ chronicle.opening = (Worker.start debuggee).1

namespace Server

/-- A server without a session, between two requests. -/
structure IsVacant (server : Server σ) : Prop where
  sessions : server.sessions = []
  free : server.tasks = []
  serving : server.isServing = true

theorem tasks_step? [Interpreter σ] {server later : Server σ} {actor : Actor} (stepped : server.step? actor = some later)
    (free : server.tasks = []) : later.tasks = [] := by
  cases actor with
  | loop =>
    simp only [step?, stepLoop?, free, Task.next?] at stepped
    cases stepped
  | worker =>
    simp only [step?, stepWorker?] at stepped
    split at stepped
    · cases stepped
    · split at stepped
      · obtain ⟨_, _, rfl⟩ := Option.map_eq_some_iff.1 stepped
        exact free
      · cases stepped
        exact free
      · cases stepped
        exact free
  | forwarder age =>
    obtain ⟨session, _, stepped⟩ := Option.bind_eq_some_iff.1 stepped
    obtain ⟨⟨told, after⟩, forwarded, rfl⟩ := Option.map_eq_some_iff.1 stepped
    exact (forwarded?_lt forwarded).2.2.trans free

theorem deeds_behind {server later : Server σ} {deed : LoopDeed σ} {more : List (Task (LoopDeed σ))}
    (performed : server.perform? deed = some (more, later)) (rest : List (Task (LoopDeed σ))) :
    Task.deeds (more ++ rest) = Task.deeds rest := by
  have written : Task.deeds more = [] := by
    refine List.eq_nil_iff_forall_not_mem.mpr fun deed member => ?_
    obtain ⟨_, inside, same⟩ := List.mem_filterMap.mp member
    obtain ⟨task, told, rfl⟩ := List.mem_map.mp inside
    obtain ⟨content, rfl⟩ := written_of_perform? performed task told
    cases same
  rw [Task.deeds_append, written, List.nil_append]

theorem perform?_plain {server later : Server σ} {deed : LoopDeed σ} {more : List (Task (LoopDeed σ))}
    (performed : server.perform? deed = some (more, later)) (calm : deed.IsPlain ∨ deed.MakesWay) :
    later.sessions.length = server.sessions.length ∧ later.stopsOnEntry = server.stopsOnEntry := by
  cases deed with
  | submit request refusal =>
    obtain ⟨_, _, rfl⟩ | ⟨_, _, rfl⟩ := perform?_submit performed
    · exact ⟨List.length_modifyHead, rfl⟩
    · exact ⟨rfl, rfl⟩
  | awaitWorker =>
    obtain ⟨_, _, rfl⟩ := perform?_awaitWorker performed
    exact ⟨rfl, rfl⟩
  | listen | stop =>
    cases performed
    exact ⟨List.length_modifyHead, rfl⟩
  | setBreakpoints | tellStack =>
    cases performed
    exact ⟨rfl, rfl⟩
  | adopt | join | leave => exact calm.elim False.elim False.elim

theorem deeds_launch {host : Host σ} (server : Server σ) (number : Nat) {arguments : Option Json} {launch : Launch}
    {prepared : Prepared σ} (settings : settingsIn arguments = .ok launch) (starts : host.prepare launch = .ok prepared) :
    Task.deeds (server.tasksFor host number "launch" arguments) =
      [.stop, .awaitWorker, .adopt prepared.debuggee launch.stopsOnEntry true (some launch.script), .listen] := by
  simp [tasksFor, launching, settings, starts]

theorem deeds_tasksFor (host : Host σ) (server : Server σ) (number : Nat) {command : String} (arguments : Option Json)
    (setsUp : SettingUp command) (other : command ≠ "launch") :
    (∀ deed ∈ Task.deeds (server.tasksFor host number command arguments), deed.IsPlain) ∧
      (Task.deeds (server.tasksFor host number command arguments)).filterMap LoopDeed.handsOn? =
        if server.stopsOnEntry = false ∧ command = "configurationDone" then [.run .resume] else [] := by
  unfold tasksFor
  split
  -- The launch, the end of the configuration, and the commands that run, inspect or end are apart.
  case h_2 => exact absurd rfl other
  case h_4 => cases server.stopsOnEntry <;> simp [LoopDeed.IsPlain, LoopDeed.handsOn?]
  case h_8 | h_9 => simp [SettingUp, Inspecting] at setsUp
  case h_10 | h_11 | h_12 | h_13 => simp [SettingUp, Stepping] at setsUp
  case h_14 | h_15 => simp [SettingUp, Closing] at setsUp
  case h_16 => simp_all [LoopDeed.IsPlain, LoopDeed.handsOn?]
  all_goals simp [LoopDeed.IsPlain, LoopDeed.handsOn?]

theorem contents_tasksFor {host : Host σ} (server : Server σ) (number : Nat) {command : String} {arguments given : Option Json}
    {launch : Launch} {prepared : Prepared σ} (settings : settingsIn arguments = .ok launch)
    (starts : host.prepare launch = .ok prepared) (same : command = "launch" → given = arguments)
    (decides : command = "launch" ∨ command = "configurationDone") :
    granted number command none ∈ Task.contents (server.tasksFor host number command given) := by
  rcases decides with rfl | rfl
  · obtain rfl := same rfl
    simp [tasksFor, launching, settings, starts]
  · simp [tasksFor]

end Server

namespace History

def startingAt (server : Server σ) : History σ :=
  ⟨server, [], [], [], [], [], false, false⟩

def commands (history : History σ) : List String :=
  history.asked.map Asked.command

def given (history : History σ) : List Request :=
  (history.handed.map Prod.snd).reverse

/-- What the request loop is about to hand to a worker. -/
def toGive (history : History σ) : List Request :=
  (Task.deeds history.server.tasks).filterMap LoopDeed.handsOn?

/-- The run that is due has been given to the worker, or is about to be. Only a program without a statement, which ends
before it is asked for anything, may be given none. -/
def GivesDue (history : History σ) (launch : Launch) (debuggee : Debuggee σ) : Prop :=
  history.given ++ history.toGive = due launch history.commands ∨
    debuggee.stack.hasNext = false ∧ history.given ++ history.toGive = []

/-- How far the setting up of a session is. -/
inductive Progress (launch : Launch) (debuggee : Debuggee σ) (history : History σ) : Prop where
  | vacant (sessions : history.server.sessions.length = 0) (unlaunched : "launch" ∉ history.commands)
      (plain : ∀ deed ∈ Task.deeds history.server.tasks, deed.IsPlain)
  | launching {way} (sessions : history.server.sessions.length = 0) (launched : "launch" ∈ history.commands)
      (unconfigured : ¬ Configured history.commands) (makesWay : ∀ deed ∈ way, deed.MakesWay)
      (deeds : Task.deeds history.server.tasks =
        way ++ [.adopt debuggee launch.stopsOnEntry true (some launch.script), .listen])
  | launched (sessions : history.server.sessions.length ≠ 0) (launched : "launch" ∈ history.commands)
      (plain : ∀ deed ∈ Task.deeds history.server.tasks, deed.IsPlain)
      (follows : history.server.stopsOnEntry = launch.stopsOnEntry) (given : history.GivesDue launch debuggee)

theorem handed_vacant {history : History σ} (sessions : history.server.sessions.length = 0) : history.handed = [] := by
  simp [handed, List.eq_nil_of_length_eq_zero sessions]

variable [Interpreter σ]

theorem sound_startingAt {server : Server σ} (vacant : server.IsVacant) : (startingAt server).Sound := by
  refine ⟨⟨false, false, true, .attended⟩, ?_, vacant.serving.symm, nofun, ?_, ?_, ?_⟩
  · simp only [startingAt, vacant.free]
    exact .rests
  · simp [startingAt, vacant.sessions]
  · simp only [startingAt, vacant.sessions]
    exact fun age _ _ session? => by simp at session?
  · simp [startingAt]

/-! What happens to a server that is being set up. -/

/-- A deed of the request loop, as far as it bears on setting a session up. -/
structure Did (history later : History σ) (deed : LoopDeed σ) : Prop where
  asked : later.asked = history.asked
  deeds : Task.deeds history.server.tasks = deed :: Task.deeds later.server.tasks
  kept : deed.IsPlain ∨ deed.MakesWay → later.server.sessions.length = history.server.sessions.length ∧
    later.server.stopsOnEntry = history.server.stopsOnEntry
  adopted : ∀ debuggee stopsOnEntry showsOutput script, deed = .adopt debuggee stopsOnEntry showsOutput script →
    later.server.sessions.length ≠ 0 ∧ later.server.stopsOnEntry = stopsOnEntry
  unhanded : deed.handsOn? = none → deed ≠ .stop → later.handed = history.handed
  handed : ∀ request, deed.handsOn? = some request → later.handed = (some history.latest, request) :: history.handed ∨
    history.server.session.any (·.isOpen) = false ∧ later.handed = history.handed

theorem Does.did {history later : History σ} (does : history.Does later) (sound : history.Sound) :
    ∃ deed, history.Did later deed := by
  obtain ⟨stage, sound⟩ := sound
  obtain @⟨deed, rest, more, after, tasks, performed⟩ := does
  have kept := Server.perform?_plain performed
  refine ⟨deed, (history.noteDeed_kept deed).1, ?_, kept, ?_, ?_, ?_⟩
  · rw [tasks, Task.deeds_own, Server.deeds_behind performed]
  · rintro debuggee stopsOnEntry showsOutput script rfl
    cases performed
    exact ⟨Nat.succ_ne_zero _, rfl⟩
  · exact fun keeps goesOn => (handed_deed sound performed keeps goesOn _).1
  · intro request handsOn
    cases deed with
    | submit asked refusal =>
      cases handsOn
      obtain ⟨opened, rfl, rfl⟩ | ⟨closed, rfl, rfl⟩ := Server.perform?_submit performed
      · exact .inl (handed_submit sound opened _ refusal rest)
      · exact .inr ⟨closed, by simp [noteDeed, closed, History.handed]⟩
    | _ => cases handsOn

/-- A step that is none of the request loop's deeds, as far as it bears on setting a session up. -/
structure Passes (history later : History σ) : Prop where
  asked : later.asked = history.asked
  deeds : Task.deeds later.server.tasks = Task.deeds history.server.tasks
  sessions : later.server.sessions.length = history.server.sessions.length
  stopsOnEntry : later.server.stopsOnEntry = history.server.stopsOnEntry
  handed : later.handed = history.handed

theorem Happens.does_or_passes {host : Host σ} {history later : History σ} (happens : Happens host history later)
    (sound : history.Sound) (unread : history.server.tasks = [] → later.server.tasks = []) :
    history.Does later ∨ history.Passes later := by
  rcases happens.does_or_keeps sound with does | ⟨handed, _⟩
  · exact .inl does
  cases happens with
  | nothing => exact .inr ⟨rfl, rfl, rfl, rfl, handed⟩
  | @reads number command arguments ready =>
    -- A request always gives the loop something to do.
    have none : history.server.tasksFor host number command arguments = [] := unread (isReady_iff.mp ready).1
    have owed := orderly_tasksFor host history.server number command arguments history.isBroken
    rw [none] at owed
    cases owed
  | ends ready | breaks ready => cases unread (isReady_iff.mp ready).1
  | loopWrites writes => exact .inr ⟨rfl, writes.deeds.symm, rfl, rfl, handed⟩
  | loopDoes tasks performed => exact .inl (.deed tasks performed)
  | workerWrites sessions | workerDoes sessions | works sessions =>
    exact .inr ⟨rfl, rfl, by simp [sessions], rfl, handed⟩
  | forwarderWrites | showsFrames | hangsUp | hears => exact .inr ⟨rfl, rfl, List.length_set, rfl, handed⟩

/-- A request that is read, as far as it bears on setting a session up. -/
structure Reads (host : Host σ) (history later : History σ) (request : Asked) (arguments : Option Json) : Prop where
  free : history.server.tasks = []
  asked : later.asked = history.asked ++ [request]
  tasks : later.server.tasks = history.server.tasksFor host request.number request.command arguments
  sessions : later.server.sessions.length = history.server.sessions.length
  stopsOnEntry : later.server.stopsOnEntry = history.server.stopsOnEntry
  handed : later.handed = history.handed
  posts : later.posts = history.posts

variable {host : Host σ} {history later : History σ} {arguments : Option Json} {launch : Launch} {debuggee : Debuggee σ}

omit [Interpreter σ] in
theorem GivesDue.of_same (gives : history.GivesDue launch debuggee)
    (same : later.given ++ later.toGive = history.given ++ history.toGive)
    (commands : due launch later.commands = due launch history.commands) : later.GivesDue launch debuggee := by
  rw [GivesDue, same, commands]
  exact gives

omit [Interpreter σ] in
theorem Passes.progress (passes : history.Passes later) (progress : history.Progress launch debuggee) :
    later.Progress launch debuggee := by
  obtain ⟨asked, deeds, sessions, stopsOnEntry, handed⟩ := passes
  have commands : later.commands = history.commands := congrArg (List.map Asked.command) asked
  have same : later.given ++ later.toGive = history.given ++ history.toGive := by
    simp only [given, toGive, handed, deeds]
  cases progress with
  | vacant empty unlaunched plain => exact .vacant (sessions ▸ empty) (commands ▸ unlaunched) (deeds ▸ plain)
  | launching empty launched unconfigured makesWay ahead =>
    exact .launching (sessions ▸ empty) (commands ▸ launched) (commands ▸ unconfigured) makesWay (deeds.trans ahead)
  | launched present launched plain follows gives =>
    exact .launched (sessions ▸ present) (commands ▸ launched) (deeds ▸ plain) (stopsOnEntry.trans follows)
      (gives.of_same same (by rw [commands]))

/-- A worker that takes no request although it was asked nothing has a program without a statement. -/
theorem hasNext_of_closed (sound : history.Sound) (opens : ∀ ledger ∈ history.ledgers, OpensWith debuggee ledger.chronicle)
    (present : history.server.sessions.length ≠ 0) (closed : history.server.session.any (·.isOpen) = false)
    (unasked : history.handed = []) : debuggee.stack.hasNext = false := by
  obtain ⟨stage, sound⟩ := sound
  obtain ⟨sessions, _⟩ | ⟨session, former, ledger, older, sessions, ledgers, keeps⟩ := sound.newest
  · simp [sessions] at present
  have closed : session.isOpen = false := by simpa [Server.session, sessions] using closed
  have ended := Worker.hasEnded_iff.mp (keeps.closes.mpr (.inr closed))
  have accounts : ledger.chronicle.accounts = [] := by
    have taken := keeps.taken
    have none : ledger.handed session = [] := by
      rw [handed, sessions, ledgers] at unasked
      exact (List.append_eq_nil_iff.mp unasked).1
    have length := congrArg List.length (List.append_eq_nil_iff.mp none).2
    rw [List.length_zip, List.length_map, taken, Nat.min_self] at length
    exact List.eq_nil_of_length_eq_zero length
  obtain ⟨begins, opening⟩ := opens ledger (ledgers ▸ List.mem_cons_self)
  have opening := opening.symm.trans (begins.opening accounts (keeps.worker ▸ ended))
  unfold Worker.start at opening
  split at opening
  · cases opening
  next none => exact Bool.eq_false_iff.mpr none

omit [Interpreter σ] in
theorem Did.givesDue {deed : LoopDeed σ} (did : history.Did later deed) (plain : deed.IsPlain)
    (gives : history.GivesDue launch debuggee)
    (ended : history.server.session.any (·.isOpen) = false → history.handed = [] → debuggee.stack.hasNext = false) :
    later.GivesDue launch debuggee := by
  have commands : later.commands = history.commands := congrArg (List.map Asked.command) did.asked
  cases handsOn : deed.handsOn? with
  | none =>
    have handed : later.handed = history.handed := did.unhanded handsOn (by rintro rfl; exact plain)
    refine gives.of_same ?_ (by rw [commands])
    rw [given, handed, toGive, given, toGive, did.deeds, List.filterMap_cons_none handsOn]
  | some request =>
    have ahead : history.toGive = request :: later.toGive := by
      rw [toGive, did.deeds, List.filterMap_cons_some handsOn, toGive]
    rcases did.handed request handsOn with handed | ⟨closed, handed⟩
    · refine gives.of_same ?_ (by rw [commands])
      rw [ahead, given, handed, given]
      simp
    · -- One run is due at most, so the worker that does not take it was handed nothing before.
      have few : (history.given ++ history.toGive).length ≤ 1 := by
        rcases gives with same | ⟨_, none⟩
        · rw [same, due]
          split <;> simp
        · simp [none]
      rw [ahead, List.length_append, List.length_cons] at few
      have unasked : history.given = [] := List.eq_nil_of_length_eq_zero (by omega)
      have last : later.toGive = [] := List.eq_nil_of_length_eq_zero (by omega)
      have unhanded : history.handed = [] := by simpa [given] using unasked
      exact .inr ⟨ended closed unhanded, by simp [given, handed, unhanded, last]⟩

omit [Interpreter σ] in
theorem Did.progress {deed : LoopDeed σ} (did : history.Did later deed) (progress : history.Progress launch debuggee)
    (ended : history.server.sessions.length ≠ 0 → history.server.session.any (·.isOpen) = false → history.handed = [] →
      debuggee.stack.hasNext = false) : later.Progress launch debuggee := by
  have commands : later.commands = history.commands := congrArg (List.map Asked.command) did.asked
  have deeds := did.deeds
  cases progress with
  | vacant empty unlaunched plain =>
    rw [deeds, List.forall_mem_cons] at plain
    exact .vacant ((did.kept (.inl plain.1)).1.trans empty) (commands ▸ unlaunched) plain.2
  | @launching way empty launched unconfigured makesWay ahead =>
    rw [deeds] at ahead
    cases way with
    | nil =>
      obtain ⟨rfl, behind⟩ := List.cons.inj ahead
      obtain ⟨present, follows⟩ := did.adopted _ _ _ _ rfl
      have handed : later.handed = [] := (did.unhanded rfl nofun).trans (handed_vacant empty)
      refine .launched present (commands ▸ launched) ?_ follows (.inl ?_)
      · rw [behind]
        exact List.forall_mem_singleton.mpr trivial
      · simp [given, handed, toGive, behind, LoopDeed.handsOn?, due, commands, unconfigured]
    | cons first way =>
      obtain ⟨rfl, behind⟩ := List.cons.inj ahead
      rw [List.forall_mem_cons] at makesWay
      exact .launching ((did.kept (.inr makesWay.1)).1.trans empty) (commands ▸ launched) (commands ▸ unconfigured)
        makesWay.2 behind
  | launched present launched plain follows gives =>
    rw [deeds, List.forall_mem_cons] at plain
    obtain ⟨sessions, stopsOnEntry⟩ := did.kept (.inl plain.1)
    exact .launched (sessions ▸ present) (commands ▸ launched) plain.2 (stopsOnEntry.trans follows)
      (did.givesDue plain.1 gives (ended present))

/-- Every command that the setting up turns on was asked for once at most. -/
structure AsksOnce (history : History σ) : Prop where
  launch : history.commands.count "launch" ≤ 1
  configuration : history.commands.count "configurationDone" ≤ 1

omit [Interpreter σ] in
theorem AsksOnce.before (once : later.AsksOnce) (asked : history.asked <+: later.asked) : history.AsksOnce := by
  have fewer (command : String) : history.commands.count command ≤ later.commands.count command :=
    (asked.map Asked.command).sublist.count_le command
  exact ⟨Nat.le_trans (fewer _) once.launch, Nat.le_trans (fewer _) once.configuration⟩

omit [Interpreter σ] in
theorem Reads.givesDue {request : Asked} {given : Option Json} (reads : Reads host history later request given)
    (gives : history.GivesDue launch debuggee) (setsUp : SettingUp request.command) (launches : request.command ≠ "launch")
    (launched : "launch" ∈ history.commands) (follows : history.server.stopsOnEntry = launch.stopsOnEntry)
    (once : later.AsksOnce) : later.GivesDue launch debuggee := by
  obtain ⟨free, asked, tasks, _, _, handed, _⟩ := reads
  have commands : later.commands = history.commands ++ [request.command] := by simp [History.commands, asked]
  have same : later.given = history.given := by rw [History.given, handed, History.given]
  have before : history.toGive = [] := by rw [toGive, free, Task.deeds_nil, List.filterMap_nil]
  have behind := (Server.deeds_tasksFor host history.server request.number given setsUp launches).2
  rw [← tasks, follows] at behind
  by_cases configures : request.command = "configurationDone"
  · -- It is the first end of the configuration, so nothing was due before.
    have unconfigured : ¬ Configured history.commands := by
      intro configured
      have first := List.count_pos_iff.mpr configured.asked
      have second := once.configuration
      rw [commands, configures, List.count_append, List.count_singleton_self] at second
      omega
    have none : history.given = [] := by
      rcases gives with whole | ⟨_, whole⟩
      · simpa [due, unconfigured, before] using whole
      · simpa [before] using whole
    have configured : Configured later.commands := commands ▸ configured_concat.mpr (.inr ⟨launched, configures⟩)
    left
    rw [same, none, toGive, behind, due]
    simp [configures, configured]
  · refine gives.of_same ?_ ?_
    · rw [same, before, toGive, behind]
      simp [configures]
    · simp [due, commands, configured_concat, configures]

omit [Interpreter σ] in
theorem Reads.progress {prepared : Prepared σ} {request : Asked} {given : Option Json}
    (reads : Reads host history later request given) (progress : history.Progress launch prepared.debuggee)
    (settings : Server.settingsIn arguments = .ok launch) (starts : host.prepare launch = .ok prepared)
    (setsUp : SettingUp request.command) (same : request.command = "launch" → given = arguments) (once : later.AsksOnce) :
    later.Progress launch prepared.debuggee := by
  have ⟨free, asked, tasks, sessions, stopsOnEntry, _, _⟩ := reads
  have commands : later.commands = history.commands ++ [request.command] := by simp [History.commands, asked]
  by_cases launches : request.command = "launch"
  · obtain rfl := same launches
    rw [launches] at tasks commands
    have deeds : Task.deeds later.server.tasks =
        [.stop, .awaitWorker] ++ [.adopt prepared.debuggee launch.stopsOnEntry true (some launch.script), .listen] := by
      rw [tasks]
      exact Server.deeds_launch history.server request.number settings starts
    cases progress with
    | vacant empty unlaunched plain =>
      refine .launching (sessions.trans empty) (by simp [commands]) ?_ (by simp [LoopDeed.MakesWay]) deeds
      rw [commands, configured_concat]
      exact fun configured => unlaunched (configured.elim Configured.launched And.left)
    | launching _ _ _ _ ahead => simp [free] at ahead
    | launched _ launched =>
      have first := List.count_pos_iff.mpr launched
      have second := once.launch
      rw [commands, List.count_append, List.count_singleton_self] at second
      omega
  · obtain ⟨plain, handsOn⟩ := Server.deeds_tasksFor host history.server request.number given setsUp launches
    rw [← tasks] at plain handsOn
    cases progress with
    | vacant empty unlaunched =>
      refine .vacant (sessions.trans empty) ?_ plain
      simp [commands, unlaunched, Ne.symm launches]
    | launching _ _ _ _ ahead => simp [free] at ahead
    | launched present launched _ follows gives =>
      exact .launched (sessions ▸ present) (by simp [commands, launched]) plain (stopsOnEntry.trans follows)
        (reads.givesDue gives setsUp launches launched follows once)

theorem Happens.writes_contents (happens : Happens host history later) {content : Content}
    (member : content ∈ Task.contents history.server.tasks) : content ∈ Task.contents later.server.tasks ∨
      ∃ post ∈ later.posts, post.cause = some history.latest ∧ post.message.content = content := by
  cases happens with
  | reads ready | ends ready | breaks ready => simp [(isReady_iff.mp ready).1] at member
  | loopWrites writes =>
    rw [writes.contents] at member
    rcases List.mem_append.mp member with now | behind
    · obtain ⟨message, posted, rfl⟩ := List.mem_map.mp now
      exact .inr ⟨⟨message, some history.latest⟩, List.mem_append_right _ (List.mem_map_of_mem posted), rfl, rfl⟩
    · exact .inl behind
  | loopDoes tasks performed =>
    rw [tasks, Task.contents_own] at member
    left
    rw [Task.contents_append]
    exact List.mem_append_right _ member
  | _ => exact .inl member

/-- A launch and the end of a configuration have been granted, or are about to be. -/
def Obliges (history : History σ) : Prop :=
  ∀ place request, history.asked[place]? = some request → request.command = "launch" ∨ request.command = "configurationDone" →
    (∃ post ∈ history.posts, post.Grants history.asked place) ∨
      place = history.latest ∧ granted request.number request.command none ∈ Task.contents history.server.tasks

theorem Happens.obliges (happens : Happens host history later) (asked : later.asked = history.asked)
    (obliges : history.Obliges) : later.Obliges := by
  intro place request read decides
  rw [asked] at read
  rcases obliges place request read decides with ⟨post, posted, grants⟩ | ⟨rfl, member⟩
  · exact .inl ⟨post, happens.grows.1.subset posted, asked ▸ grants⟩
  rcases happens.writes_contents member with still | ⟨post, posted, cause, content⟩
  · exact .inr ⟨by rw [latest, latest, asked], still⟩
  · have own : ¬ Inspecting request.command := by
      rcases decides with same | same <;> simp [Inspecting, same]
    exact .inl ⟨post, posted, cause, request, none, asked ▸ read, own, content⟩

omit [Interpreter σ] in
theorem Reads.obliges {prepared : Prepared σ} {newest : Asked} {given : Option Json}
    (reads : Reads host history later newest given) (obliges : history.Obliges)
    (settings : Server.settingsIn arguments = .ok launch) (starts : host.prepare launch = .ok prepared)
    (same : newest.command = "launch" → given = arguments) : later.Obliges := by
  intro place request read decides
  rw [reads.asked, List.getElem?_append] at read
  split at read
  next inside =>
    obtain ⟨post, posted, grants⟩ | ⟨_, member⟩ := obliges place request read decides
    · have grown : history.asked <+: later.asked := reads.asked ▸ List.prefix_append _ _
      exact .inl ⟨post, reads.posts ▸ posted, grants_later grants grown⟩
    · simp [reads.free] at member
  next outside =>
    have last : place - history.asked.length < 1 := (List.getElem?_eq_some_iff.mp read).1
    rw [Nat.lt_one_iff.mp last] at read
    cases read
    right
    refine ⟨?_, reads.tasks ▸ Server.contents_tasksFor history.server newest.number settings starts same decides⟩
    rw [latest, reads.asked, List.length_append, List.length_singleton]
    omega

omit [Interpreter σ] in
theorem Progress.adopts (progress : history.Progress launch debuggee) {other : Debuggee σ} {stopsOnEntry showsOutput : Bool}
    {script : Option String} (adopts : .adopt other stopsOnEntry showsOutput script ∈ Task.deeds history.server.tasks) :
    other = debuggee := by
  cases progress with
  | vacant _ _ plain => exact (plain _ adopts).elim
  | launching _ _ _ makesWay ahead =>
    rw [ahead] at adopts
    rcases List.mem_append.mp adopts with way | last
    · exact (makesWay _ way).elim
    · simp at last
      exact last.1
  | launched _ _ plain => exact (plain _ adopts).elim

/-- A session is being set up as it was asked for. -/
structure Arranged (launch : Launch) (debuggee : Debuggee σ) (history : History σ) : Prop where
  progress : history.Progress launch debuggee
  opens : ∀ ledger ∈ history.ledgers, OpensWith debuggee ledger.chronicle
  obliges : history.Obliges

theorem Happens.opens (happens : Happens host history later) (sound : history.Sound) (arranged : history.Arranged launch debuggee) :
    ∀ ledger ∈ later.ledgers, OpensWith debuggee ledger.chronicle := by
  refine happens.chronicles_adopted sound ?_ ?_ arranged.opens
  · intro other stopsOnEntry showsOutput script adopts breakpoints
    obtain rfl := arranged.progress.adopts adopts
    exact ⟨Chronicle.begins_start _ breakpoints, rfl⟩
  · rintro chronicle move - ⟨begins, opening⟩
    exact ⟨Chronicle.move_begins begins move, (Chronicle.opening_move chronicle move).trans opening⟩

theorem Arranged.move {prepared : Prepared σ} (arranged : history.Arranged launch prepared.debuggee) (sound : history.Sound)
    (settings : Server.settingsIn arguments = .ok launch) (starts : host.prepare launch = .ok prepared)
    {occurrence : Occurrence} (setsUp : occurrence.SetsUp arguments) (once : (history.move host occurrence).AsksOnce) :
    (history.move host occurrence).Arranged launch prepared.debuggee := by
  have happens : Happens host history (history.move host occurrence) := by
    obtain ⟨stage, sound⟩ := sound
    exact happens_move host sound.paired occurrence
  have opens := happens.opens sound arranged
  have ⟨progress, opened, obliges⟩ := arranged
  cases occurrence with
  | read message =>
    obtain same | ⟨command, given, content, ready, read⟩ := move_read host history message
    · rw [same]
      exact arranged
    · obtain ⟨kind, same⟩ := setsUp command given content
      have reads : Reads host history (history.move host (.read message)) ⟨message.number, command, history.now⟩ given := by
        rw [read]
        exact ⟨(isReady_iff.mp ready).1, rfl, rfl, rfl, rfl, rfl, rfl⟩
      exact ⟨reads.progress progress settings starts kind same once, opens, reads.obliges obliges settings starts same⟩
  | inputEnd | fault => exact setsUp.elim
  | step actor =>
    have unread (free : history.server.tasks = []) : (history.move host (.step actor)).server.tasks = [] := by
      unfold History.move
      dsimp only
      cases stepped : history.server.step? actor with
      | none => exact free
      | some later => exact Server.tasks_step? stepped free
    rcases happens.does_or_passes sound unread with does | passes
    · obtain ⟨deed, did⟩ := does.did sound
      exact ⟨did.progress progress (hasNext_of_closed sound opened), opens, happens.obliges did.asked obliges⟩
    · exact ⟨passes.progress progress, opens, happens.obliges passes.asked obliges⟩

theorem arranged_startingAt {server : Server σ} (vacant : server.IsVacant) :
    (startingAt server).Arranged launch debuggee where
  progress := by
    refine .vacant ?_ (by simp [commands, startingAt]) ?_
    · simp [startingAt, vacant.sessions]
    · simp [startingAt, vacant.free]
  opens := by simp [startingAt]
  obliges := by simp [Obliges, startingAt]

omit [Interpreter σ] in
theorem Progress.givesDue (progress : history.Progress launch debuggee) (launched : "launch" ∈ history.commands) :
    history.GivesDue launch debuggee := by
  cases progress with
  | vacant _ unlaunched => exact absurd launched unlaunched
  | @launching way empty _ unconfigured makesWay ahead =>
    have none : way.filterMap LoopDeed.handsOn? = [] := by
      refine List.filterMap_eq_nil_iff.mpr fun deed member => ?_
      cases deed with
      | stop | awaitWorker => rfl
      | _ => exact (makesWay _ member).elim
    left
    simp [due, unconfigured, given, handed_vacant empty, toGive, ahead, none, LoopDeed.handsOn?]
  | launched _ _ _ _ gives => exact gives

/-- A server without a session is set up by one launch and one end of the configuration at most, whatever else the client
asks for that neither runs the program nor looks into it, and whatever order the threads take their steps in. The worker
is handed one run if the launch does not stop on entry and came before the end of the configuration, and none if not: then
the end of the configuration is granted all the same, and is forgotten. -/
theorem setup_resumes (host : Host σ) {server : Server σ} (vacant : server.IsVacant) {arguments : Option Json}
    {launch : Launch} {prepared : Prepared σ} (settings : Server.settingsIn arguments = .ok launch)
    (starts : host.prepare launch = .ok prepared) (occurrences : List Occurrence)
    (setsUp : ∀ occurrence ∈ occurrences, occurrence.SetsUp arguments)
    (launched : ((startingAt server).moved host occurrences).commands.count "launch" = 1)
    (configured : ((startingAt server).moved host occurrences).commands.count "configurationDone" ≤ 1) :
    ((startingAt server).moved host occurrences).GivesDue launch prepared.debuggee ∧
      (((startingAt server).moved host occurrences).server.tasks = [] →
        ∀ place request, ((startingAt server).moved host occurrences).asked[place]? = some request →
          request.command = "launch" ∨ request.command = "configurationDone" →
            ∃ post ∈ ((startingAt server).moved host occurrences).posts,
              post.Grants ((startingAt server).moved host occurrences).asked place) := by
  have reached : ((startingAt server).moved host occurrences).Sound ∧
      (((startingAt server).moved host occurrences).AsksOnce →
        ((startingAt server).moved host occurrences).Arranged launch prepared.debuggee) := by
    refine moved_induction_of (motive := fun history => history.Sound ∧ (history.AsksOnce → history.Arranged launch prepared.debuggee))
      (Occurrence.SetsUp arguments) ⟨sound_startingAt vacant, fun _ => arranged_startingAt vacant⟩ ?_ occurrences setsUp
    intro history occurrence allowed ⟨⟨stage, sound⟩, arranged⟩
    have happens := happens_move host sound.paired occurrence
    refine ⟨happens.sound ⟨stage, sound⟩, fun once => ?_⟩
    exact (arranged (once.before happens.grows.2.1)).move ⟨stage, sound⟩ settings starts allowed once
  generalize (startingAt server).moved host occurrences = history at *
  have arranged := reached.2 ⟨Nat.le_of_eq launched, configured⟩
  refine ⟨arranged.progress.givesDue (List.count_pos_iff.mp (by omega)), fun free place request read decides => ?_⟩
  obtain granted | ⟨_, member⟩ := arranged.obliges place request read decides
  · exact granted
  · simp [free] at member

/-- Arguments that launch a program without a stop on entry. -/
def quietArguments : Option Json :=
  some (.obj [("program", .str "s.R"), ("stopOnEntry", .bool false)])

def quietLaunch : Launch :=
  { Launch.ofScript "s.R" with stopsOnEntry := false }

/-- A system with one script, and an interpreter that is at its prompt again behind a command. -/
def promptingHost : Host Scripted :=
  ⟨fun _ => .ok "x", fun _ => .ok ⟨[⟨"Filter(", .said "character(0)\nBrowse[1]> " ""⟩], [.said "Browse[1]> " ""], 0⟩⟩

/-- A client that waits behind each of its requests until there is nothing left to do. -/
def patiently (commands : List String) : List Occurrence :=
  (commands.zipIdx 1).flatMap fun (command, number) =>
    .asks number command (if command = "launch" then quietArguments else none) :: Occurrence.rounds 14

theorem setsUp_patiently {commands : List String} (all : ∀ command ∈ commands, SettingUp command) :
    ∀ occurrence ∈ patiently commands, occurrence.SetsUp quietArguments := by
  intro occurrence member
  obtain ⟨⟨command, number⟩, asked, member⟩ := List.mem_flatMap.mp member
  rcases List.mem_cons.mp member with rfl | member
  · rintro _ _ ⟨⟩
    exact ⟨all command (List.fst_mem_of_mem_zipIdx asked), fun launches => if_pos launches⟩
  · obtain ⟨round, rounds, member⟩ := List.mem_flatten.mp member
    obtain rfl := List.eq_of_mem_replicate rounds
    simp only [List.mem_cons, List.not_mem_nil, or_false] at member
    rcases member with rfl | rfl | rfl <;> trivial

/-- A server that has just started, and its client. -/
def setUp (commands : List String) : History Scripted :=
  (startingAt .fresh).moved promptingHost (patiently commands)

theorem launchingFirst_resumes :
    ∃ prepared, promptingHost.prepare quietLaunch = .ok prepared ∧ prepared.debuggee.stack.hasNext = true ∧
      (setUp ["initialize", "launch", "threads", "configurationDone"]).server.tasks = [] ∧
      (setUp ["initialize", "launch", "threads", "configurationDone"]).given = [.run .resume] := by
  have facts : ((promptingHost.prepare quietLaunch).toOption.any (·.debuggee.stack.hasNext)) = true ∧
      (setUp ["initialize", "launch", "threads", "configurationDone"]).commands =
        ["initialize", "launch", "threads", "configurationDone"] ∧
      (setUp ["initialize", "launch", "threads", "configurationDone"]).server.tasks.isEmpty = true := by
    decide +kernel
  obtain ⟨starts, commands, free⟩ := facts
  have free := List.isEmpty_iff.mp free
  cases prepared : promptingHost.prepare quietLaunch with
  | error => simp [prepared, Except.toOption] at starts
  | ok started =>
    have present : started.debuggee.stack.hasNext = true := by simpa [prepared, Except.toOption] using starts
    have gives := (setup_resumes promptingHost ⟨rfl, rfl, rfl⟩ (rfl : Server.settingsIn quietArguments = .ok quietLaunch) prepared
      (patiently ["initialize", "launch", "threads", "configurationDone"]) (setsUp_patiently (by decide))
      (by rw [← setUp, commands]; decide) (by rw [← setUp, commands]; decide)).1
    refine ⟨started, rfl, present, free, ?_⟩
    rcases gives with whole | ⟨none, _⟩
    · rw [← setUp, commands, toGive, free] at whole
      simpa [due, quietLaunch, show Configured ["initialize", "launch", "threads", "configurationDone"] by decide] using whole
    · cases present.symm.trans none

/-- With the requests in the other order all of them are granted, too, the worker is handed nothing, and no thread has
anything left to do. -/
theorem configuringFirst_rests :
    (setUp ["initialize", "configurationDone", "launch"]).posts.filterMap (·.message.content.grants?) =
        [(1, "initialize"), (2, "configurationDone"), (3, "launch")] ∧
      (setUp ["initialize", "configurationDone", "launch"]).given = [] ∧
      ((setUp ["initialize", "configurationDone", "launch"]).server.actors.all fun actor =>
        ((setUp ["initialize", "configurationDone", "launch"]).server.step? actor).isNone) = true := by
  decide +kernel

end History
end RStepper.Adapter
