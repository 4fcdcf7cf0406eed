import RStepper.Interpreter.Scripted
import RStepper.Proofs.BreakpointStops
import RStepper.Proofs.Exchanges
import RStepper.Proofs.FrameAnswers

/-! What a client knows of a breakpoint before the program goes on from it. A client that waits to be told what
became of its last request is told of the pause there, unless this is the pause at the first statement and the
client did not ask for it. -/

namespace RStepper
variable {σ : Type}

namespace Chronicle

def OpensAtEntry (chronicle : Chronicle σ) : Prop :=
  ∀ stop, .stopped stop ∈ chronicle.opening → stop.reason = .entry

theorem opensAtEntry_start (debuggee : Debuggee σ) (breakpoints : Breakpoints) : (start debuggee breakpoints).OpensAtEntry := by
  unfold OpensAtEntry start Worker.start
  dsimp only
  split
  · intro stop member
    cases List.mem_singleton.mp member
    rfl
  · intro stop member
    cases List.mem_singleton.mp member

theorem reported_of_lastStop? {chronicle : Chronicle σ} {stop : Stop} (last : chronicle.lastStop? = some stop) :
    .stopped stop ∈ chronicle.events := by
  obtain ⟨event, member, same⟩ := List.mem_filterMap.mp (List.mem_of_getLast? last)
  cases event with
  | stopped other =>
    cases same
    exact member
  | _ => cases same

variable [Interpreter σ]

theorem OpensAtEntry.move {chronicle : Chronicle σ} (opens : chronicle.OpensAtEntry) (move : Move) :
    (chronicle.move move).OpensAtEntry := by
  rwa [OpensAtEntry, opening_move]

end Chronicle

namespace Adapter

/-- The client had been told what became of every run that was begun, and of the first pause if it is told of that. -/
structure Moment.IsAwaited (moment : Moment) (announcesEntry : Bool) : Prop where
  runs : moment.IsQuiet
  entry : announcesEntry = true → ∃ post ∈ moment.posts, post.cause = none ∧ post.message.content.isOutcome = true

/-- A worker that is at no run sends what inspections ask, and no statement of the program. -/
theorem sends_of_resting [Interpreter σ] {session later : Session σ} {breakpoints left : Breakpoints}
    (resting : session.worker.isRunning = false) (worked : session.work? breakpoints = some (later, left)) :
    session.worker.debuggee.channel.Grows IsInspection later.worker.debuggee.channel := by
  have answers {α : Type} {talk : Talk σ α} (sends : talk.Sends IsInspection) (report : Except String α → Event) :
      session.worker.debuggee.channel.Grows IsInspection
        (Worker.answer session.isStopping report (session.worker.debuggee.during talk)).2.debuggee.channel := by
    rw [Worker.answer_debuggee]
    exact sends _
  cases Session.work?_cases worked with
  | leg activity => simp [Worker.isRunning, activity] at resting
  | @takes request rest _ _ =>
    cases request with
    | run | runTo | stop => exact .refl _
    | evaluate id expression => exact answers (Inspect.sends_evaluate expression) _
    | _ id => exact answers Inspect.sends_visible _
  | releases activity =>
    simp only [Session.behind, Worker.release, activity]
    exact .refl _

namespace Ledger
variable [Interpreter σ] {ledger : Ledger σ} {session : Session σ} {cause : Option Nat} {stop : Stop}

theorem Keeps.told_of_outcome (keeps : ledger.Keeps session) (distinct : ledger.Distinct) {content : Content}
    (reported : (cause, .stopped stop) ∈ ledger.reports) (said : (cause, content) ∈ Adapter.outcomes ledger.forwarded) :
    content = .event "stopped" (some (Body.stopped stop)) := by
  obtain ⟨⟨_, event⟩, member, told⟩ := List.mem_filterMap.mp (keeps.outcomes_forwarded.subset said)
  obtain ⟨_, outcome, same⟩ := Option.map_eq_some_iff.mp told
  cases same
  obtain rfl : event = .stopped stop := distinct.only member reported (isOutcome_of_outcome? outcome) rfl
  dsimp only [outcome?] at outcome
  split at outcome <;> cases outcome
  rfl

theorem Keeps.entry_of_uncaused (keeps : ledger.Keeps session) (opens : ledger.chronicle.OpensAtEntry)
    (stops : ∀ request, (none, request) ∈ ledger.handed session → request = .stop)
    (reported : (none, .stopped stop) ∈ ledger.reports) : stop.reason = .entry := by
  obtain ⟨_, opening⟩ | ⟨account, taken, inside, _⟩ := handed_of_reports session reported
  · exact opens stop opening
  · rw [keeps.unasked stops taken] at inside
    cases inside

theorem Keeps.at_run (keeps : ledger.Keeps session) (running : session.worker.isRunning = true) :
    ∃ causes newest older, ledger.taken = ledger.cause :: causes ∧ ledger.chronicle.accounts = newest :: older ∧
      newest.IsRun ∧ newest.reports = [] := by
  obtain ⟨cause, causes, newest, older, taken, accounts, rfl⟩ := keeps.busy (.inl running)
  have present := keeps.consistent.present
  rw [accounts, keeps.worker] at present
  unfold Worker.isRunning at running
  split at running
  next run activity =>
    rw [activity] at present
    obtain ⟨_, _, same, isRun, silent⟩ := present.of_running
    cases same
    exact ⟨causes, newest, older, taken, accounts, isRun, silent⟩
  · cases running

/-- What a running worker has reported comes of what it was handed before the run. -/
theorem Keeps.reported_before (keeps : ledger.Keeps session) (running : session.worker.isRunning = true)
    (ordered : ((ledger.handed session).filterMap Prod.fst).Pairwise (· > ·)) {place earlier : Nat} {event : Event}
    (current : ledger.cause = some place) (reported : (some earlier, event) ∈ ledger.reports) : earlier < place := by
  obtain ⟨causes, newest, older, taken, accounts, _, silent⟩ := keeps.at_run running
  obtain ⟨none, _⟩ | ⟨account, member, inside, _⟩ := handed_of_reports session reported
  · cases none
  have later := ordered.sublist ((List.sublist_append_right _ _).filterMap _)
  rw [taken, accounts, List.zip_cons_cons] at member
  rw [taken, accounts, current, List.map_cons, List.zip_cons_cons, List.filterMap_cons, List.pairwise_cons] at later
  rcases List.mem_cons.mp member with first | behind
  · obtain rfl : account = newest := (Prod.mk.inj first).2
    rw [silent] at inside
    cases inside
  · apply later.1
    rw [List.zip_map_right]
    exact List.mem_filterMap.mpr ⟨_, List.mem_map_of_mem behind, rfl⟩

/-- A run at a breakpoint that has to stop it has not begun to move from the pause that was reported last. -/
theorem Keeps.stands (keeps : ledger.Keeps session) (watched : ledger.chronicle.Watched)
    (running : session.worker.isRunning = true) (halts : ledger.chronicle.Halts) :
    ledger.chronicle.legs = 0 ∧ ∃ cause stop, ledger.chronicle.lastStop? = some stop ∧
      (cause, .stopped stop) ∈ ledger.reports ∧ stop.frames = session.worker.debuggee.stack.locations := by
  rw [← keeps.worker] at running ⊢
  have first : ledger.chronicle.legs = 0 := Nat.eq_zero_of_not_pos fun legs => watched.passed running legs halts
  obtain ⟨stop, last, frames⟩ := watched.shown (.inr ⟨running, first⟩)
  have event := Chronicle.reported_of_lastStop? last
  rw [← map_reports keeps.taken] at event
  obtain ⟨⟨cause, _⟩, reported, rfl⟩ := List.mem_map.mp event
  exact ⟨first, cause, stop, last, reported, frames⟩

end Ledger

namespace History

/-- What is put down of the time at which a request was read stays true. -/
structure Recalls (history : History σ) : Prop where
  posts : ∀ request ∈ history.asked, request.time.posts ⊆ history.posts
  runs : ∀ place request, history.asked[place]? = some request → ∀ run ∈ history.runs, run < place → run ∈ request.time.runs

theorem recalls_begin (attached : Option (Debuggee σ × Bool)) : (begin attached).Recalls where
  posts := by simp [begin]
  runs := by simp [begin]

variable [Interpreter σ]

theorem Happens.asks {host : Host σ} {history later : History σ} (happens : Happens host history later) :
    later.asked = history.asked ∨
      ∃ number command, later.asked = history.asked ++ [⟨number, command, history.now⟩] ∧ later.runs = history.runs := by
  cases happens with
  | reads => exact .inr ⟨_, _, rfl, rfl⟩
  | loopDoes => exact .inl (history.noteDeed_kept _).1
  | _ => exact .inl rfl

theorem Happens.begun {host : Host σ} {history later : History σ} (happens : Happens host history later)
    (sound : history.Sound) {run : Nat} (begun : run ∈ later.runs) : run ∈ history.runs ∨ run = history.latest := by
  cases happens.hands sound with
  | nothing _ runs | stops _ runs => exact .inl (runs ▸ begun)
  | submits _ _ _ _ runs =>
    rw [runs] at begun
    refine (List.mem_append.mp begun).imp_right fun new => ?_
    split at new
    · exact List.mem_singleton.mp new
    · cases new

theorem Happens.recalls {host : Host σ} {history later : History σ} (happens : Happens host history later)
    (sound : history.Sound) (recalls : history.Recalls) : later.Recalls := by
  have posts : history.posts ⊆ later.posts := happens.grows.1.subset
  rcases happens.asks with same | ⟨number, command, more, runs⟩
  · constructor
    case posts =>
      intro request member
      exact List.Subset.trans (recalls.posts request (same ▸ member)) posts
    case runs =>
      intro place request read run begun earlier
      rw [same] at read
      have inside := (List.getElem?_eq_some_iff.mp read).1
      rcases happens.begun sound begun with before | rfl
      · exact recalls.runs place request read run before earlier
      · rw [latest] at earlier
        omega
  · constructor
    case posts =>
      intro request member
      rw [more] at member
      rcases List.mem_append.mp member with old | new
      · exact List.Subset.trans (recalls.posts request old) posts
      · obtain rfl := List.mem_singleton.mp new
        exact posts
    case runs =>
      intro place request read run begun earlier
      rw [runs] at begun
      rw [more, List.getElem?_append] at read
      split at read
      · exact recalls.runs place request read run begun earlier
      · obtain rfl := List.mem_singleton.mp (List.mem_of_getElem? read)
        exact begun

/-- What holds of all that a server comes to, as long as the breakpoints are left alone while the program runs. -/
structure IsWatched (history : History σ) : Prop where
  opens : ∀ ledger ∈ history.ledgers, ledger.chronicle.OpensAtEntry
  watched : history.isDisturbed = false → ∀ ledger ∈ history.ledgers, ledger.chronicle.Watched
  recalls : history.Recalls

omit [Interpreter σ] in
theorem isWatched_begin (attached : Option (Debuggee σ × Bool)) : (begin attached).IsWatched where
  opens := by simp [begin]
  watched := by simp [begin]
  recalls := recalls_begin attached

theorem undisturbed_noteDeed {history : History σ} {deed : LoopDeed σ} (undisturbed : (history.noteDeed deed).isDisturbed = false) :
    history.isDisturbed = false := by
  cases deed with
  | setBreakpoints => exact (Bool.or_eq_false_iff.mp undisturbed).1
  | submit =>
    dsimp only [noteDeed] at undisturbed
    split at undisturbed <;> exact undisturbed
  | _ => exact undisturbed

theorem Happens.undisturbed {host : Host σ} {history later : History σ} (happens : Happens host history later)
    (undisturbed : later.isDisturbed = false) : history.isDisturbed = false := by
  cases happens with
  | loopDoes => exact undisturbed_noteDeed undisturbed
  | _ => exact undisturbed

theorem Happens.isWatched {host : Host σ} {history later : History σ} (happens : Happens host history later)
    (sound : history.Sound) (watching : history.IsWatched) : later.IsWatched where
  opens := happens.chronicles sound Chronicle.opensAtEntry_start (fun _ move _ opens => opens.move move) watching.opens
  watched undisturbed := happens.chronicles sound Chronicle.watched_start
    (fun _ _ alone watched => Chronicle.move_watched watched (alone undisturbed))
    (watching.watched (happens.undisturbed undisturbed))
  recalls := happens.recalls sound watching.recalls

variable {history : History σ} {session : Session σ} {ledger : Ledger σ}

theorem InTurn.asked_of_running (inTurn : history.InTurn) {age : Nat} (session? : history.server.sessions[age]? = some session)
    (ledger? : history.ledgers[age]? = some ledger) (keeps : ledger.Keeps session) (running : session.worker.isRunning = true) :
    ∃ place request, ledger.cause = some place ∧ history.asked[place]? = some request := by
  obtain ⟨causes, newest, older, taken, accounts, isRun, _⟩ := keeps.at_run running
  have handed : (ledger.cause, newest.request) ∈ ledger.handed session := by
    refine List.mem_append_right _ ?_
    rw [accounts, taken]
    exact List.mem_cons_self
  have entitled := inTurn.entitled _ _ (mem_handed session? ledger? handed)
  have isRun := isRun.isRun
  generalize ledger.cause = cause, newest.request = request at entitled isRun
  cases entitled with
  | run _ _ _ grants =>
    obtain ⟨_, request, _, read, _⟩ := grants
    exact ⟨_, request, rfl, read⟩
  | inspection read => exact ⟨_, _, rfl, read⟩
  | stop => cases isRun

theorem Warranted.tells (warranted : history.Warranted) (inTurn : history.InTurn) (sessions : history.server.sessions = [session])
    (ledgers : history.ledgers = [ledger]) (keeps : ledger.Keeps session) {post : Post} {stop : Stop} (posted : post ∈ history.posts)
    (outcome : post.message.content.isOutcome = true) (reported : (post.cause, .stopped stop) ∈ ledger.reports) :
    post.message.content = .event "stopped" (some (Body.stopped stop)) := by
  have session? : history.server.sessions[0]? = some session := by rw [sessions]; rfl
  have ledger? : history.ledgers[0]? = some ledger := by rw [ledgers]; rfl
  have distinct : ledger.Distinct := inTurn.distinct session? ledger? keeps
  have said : post.entry ∈ outcomes (history.posts.map Post.entry) :=
    List.mem_filter.mpr ⟨List.mem_map_of_mem posted, outcome⟩
  rw [warranted.told (by simp [sessions]), forwarded, ledgers, List.flatMap_singleton] at said
  exact keeps.told_of_outcome distinct reported said

/-- A run stands at a pause, which was reported last, and has not begun to move. A request asked for the run. -/
structure StandsAt (history : History σ) (session : Session σ) (cause : Option Nat) (stop : Stop) (request : Asked) : Prop where
  reported : ∃ ledger ∈ history.ledgers.head?, ledger.chronicle.legs = 0 ∧ ledger.chronicle.lastStop? = some stop ∧
    (cause, .stopped stop) ∈ ledger.reports ∧ ∃ place, ledger.cause = some place ∧ history.asked[place]? = some request
  frames : stop.frames = session.worker.debuggee.stack.locations

def Tells (history : History σ) (cause : Option Nat) (stop : Stop) : Prop :=
  ∃ post ∈ history.posts, post.cause = cause ∧ post.message.content = .event "stopped" (some (Body.stopped stop))

theorem told_of_running (sound : history.Sound) (inTurn : history.InTurn) (warranted : history.Warranted)
    (watching : history.IsWatched) (one : history.server.sessions.length ≤ 1) (undisturbed : history.isDisturbed = false)
    (newest : history.server.session = some session) (running : session.worker.isRunning = true) {breakpoint : Breakpoint}
    (set : history.server.breakpoints.find? session.worker.debuggee.stack.location = some breakpoint)
    (unconditional : breakpoint.condition = none) :
    ∃ cause stop request, history.StandsAt session cause stop request ∧
      (history.Tells cause stop ∨ session.announcesEntry = false ∧ stop.reason = .entry ∨
        ¬ request.time.IsAwaited session.announcesEntry) := by
  obtain ⟨stage, sound⟩ := sound
  obtain ⟨none, _⟩ | ⟨_, ledger, sessions, ledgers, keeps⟩ := sound.only one
  · simp [Server.session, none] at newest
  rw [Server.session, sessions] at newest
  cases newest
  have session? : history.server.sessions[0]? = some session := by rw [sessions]; rfl
  have ledger? : history.ledgers[0]? = some ledger := by rw [ledgers]; rfl
  have halts : ledger.chronicle.Halts := by
    refine ⟨breakpoint, ?_, by simp [unconditional]⟩
    rw [sound.breakpoints ledger (by rw [ledgers]; rfl), keeps.worker]
    exact set
  obtain ⟨first, cause, stop, last, reported, frames⟩ :=
    keeps.stands (watching.watched undisturbed ledger (ledgers ▸ List.mem_cons_self)) running halts
  obtain ⟨place, request, current, read⟩ := inTurn.asked_of_running session? ledger? keeps running
  have newestLedger : ledger ∈ history.ledgers.head? := by rw [ledgers]; rfl
  refine ⟨cause, stop, request, ⟨⟨ledger, newestLedger, first, last, reported, place, current, read⟩, frames⟩, ?_⟩
  by_cases awaited : request.time.IsAwaited session.announcesEntry
  case neg => exact .inr (.inr awaited)
  have told {post : Post} (early : post ∈ request.time.posts) (same : post.cause = cause)
      (outcome : post.message.content.isOutcome = true) :
      history.Tells cause stop := by
    have posted := watching.recalls.posts request (List.mem_of_getElem? read) early
    exact ⟨post, posted, same, warranted.tells inTurn sessions ledgers keeps posted outcome (same ▸ reported)⟩
  cases cause with
  | some earlier =>
    -- The pause comes of a run before this one, which the client knew the outcome of when it asked for this one.
    have before : earlier < place := keeps.reported_before running (inTurn.ordered_at session? ledger?) current reported
    have begun := inTurn.run_of_stopped session? ledger? keeps reported
    obtain ⟨post, early, same, outcome⟩ := awaited.runs earlier (watching.recalls.runs place request read earlier begun before)
    exact .inl (told early same outcome)
  | none =>
    cases announces : session.announcesEntry with
    | true =>
      obtain ⟨post, early, same, outcome⟩ := awaited.entry announces
      exact .inl (told early same outcome)
    | false =>
      have opens := watching.opens ledger (ledgers ▸ List.mem_cons_self)
      exact .inr (.inl ⟨rfl, keeps.entry_of_uncaused opens (inTurn.unasked session? ledger?) reported⟩)

/-- With one session, and breakpoints that are left alone while the program runs: where a run is at a breakpoint
without a condition, the run has not begun to move, and the client has been told of the pause there. But it is not told
of the first pause if it did not ask for that, and it may have asked for the run too soon: before it was told what had
become of the runs before. -/
theorem breakpoint_told (host : Host σ) (attached : Option (Debuggee σ × Bool)) (occurrences : List Occurrence)
    {session : Session σ} {breakpoint : Breakpoint}
    (one : ((begin attached).moved host occurrences).server.sessions.length ≤ 1)
    (undisturbed : ((begin attached).moved host occurrences).isDisturbed = false)
    (newest : ((begin attached).moved host occurrences).server.session = some session)
    (running : session.worker.isRunning = true)
    (set : ((begin attached).moved host occurrences).server.breakpoints.find? session.worker.debuggee.stack.location =
      some breakpoint)
    (unconditional : breakpoint.condition = none) :
    ∃ cause stop request, ((begin attached).moved host occurrences).StandsAt session cause stop request ∧
      (((begin attached).moved host occurrences).Tells cause stop ∨ session.announcesEntry = false ∧ stop.reason = .entry ∨
        ¬ request.time.IsAwaited session.announcesEntry) := by
  obtain ⟨sound, inTurn, warranted, watching⟩ := warranted_induction (isWatched_begin attached)
    (fun _ _ sound _ _ (happens : Happens host _ _) => happens.isWatched sound) occurrences
  exact told_of_running sound inTurn warranted watching one undisturbed newest running set unconditional

/-- A request for a breakpoint at a line, and none elsewhere. -/
def breakAt (line : Int) : Occurrence :=
  .asks 1 "setBreakpoints" (some (.obj [("breakpoints", .arr [.obj [("line", .int line)]])]))

/-- A program whose first pause is not asked for. -/
def attachedQuietly (source : String) : Option (Debuggee Scripted × Bool) :=
  some (.start source ⟨[⟨"Filter(", .said "character(0)\nBrowse[1]> " ""⟩], [.said "Browse[1]> " ""], 0⟩, false)

/-- The program runs until it is at the second statement, and the client goes on from there. -/
def visiting : List Occurrence :=
  Occurrence.rounds 8 ++ [breakAt 2] ++ Occurrence.rounds 4 ++ [.asks 2 "configurationDone" none] ++
    Occurrence.rounds 14 ++ [.asks 3 "next" none] ++ List.replicate 4 (.step .loop) ++ [.step .worker]

theorem visiting_told :
    ∃ session, ((begin (attachedQuietly "x\ny")).moved barrenHost visiting).server.session = some session ∧
      session.worker.isRunning = true ∧ session.worker.debuggee.stack.location = .inScript 2 ∧
      (((begin (attachedQuietly "x\ny")).moved barrenHost visiting).posts.filter (·.message.content.isPause)).map Post.cause =
        [some 1] ∧
      ∃ cause stop request, ((begin (attachedQuietly "x\ny")).moved barrenHost visiting).StandsAt session cause stop request ∧
        (((begin (attachedQuietly "x\ny")).moved barrenHost visiting).Tells cause stop ∨
          session.announcesEntry = false ∧ stop.reason = .entry ∨ ¬ request.time.IsAwaited session.announcesEntry) := by
  have facts : ((begin (attachedQuietly "x\ny")).moved barrenHost visiting).server.sessions.length ≤ 1 ∧
      ((begin (attachedQuietly "x\ny")).moved barrenHost visiting).isDisturbed = false ∧
      ((begin (attachedQuietly "x\ny")).moved barrenHost visiting).server.breakpoints.find? (.inScript 2) =
        some ⟨.inScript 2, none⟩ ∧
      (((begin (attachedQuietly "x\ny")).moved barrenHost visiting).server.session.any fun session =>
        session.worker.isRunning && session.worker.debuggee.stack.location == .inScript 2) = true ∧
      (((begin (attachedQuietly "x\ny")).moved barrenHost visiting).posts.filter (·.message.content.isPause)).map Post.cause =
        [some 1] := by
    decide +kernel
  obtain ⟨one, undisturbed, set, stands, pauses⟩ := facts
  obtain ⟨session, newest, stands⟩ := (Option.any_eq_true _ _).mp stands
  simp only [Bool.and_eq_true, beq_iff_eq] at stands
  obtain ⟨running, location⟩ := stands
  exact ⟨session, newest, running, location, pauses,
    breakpoint_told barrenHost (attachedQuietly "x\ny") visiting one undisturbed newest running (location ▸ set) rfl⟩

/-- The program runs from the first statement on, where there is a breakpoint. -/
def passing : List Occurrence :=
  Occurrence.rounds 8 ++ [breakAt 1] ++ Occurrence.rounds 4 ++ [.asks 2 "configurationDone" none] ++ Occurrence.rounds 14

/-- The statement at the breakpoint is sent, and the client is told of no pause. -/
theorem passing_untold :
    ((begin (attachedQuietly "x")).moved barrenHost passing).isDisturbed = false ∧
      ((begin (attachedQuietly "x")).moved barrenHost passing).server.breakpoints.find? (.inScript 1) =
        some ⟨.inScript 1, none⟩ ∧
      (((begin (attachedQuietly "x")).moved barrenHost passing).server.session.any fun session =>
        "x" ∈ session.worker.debuggee.channel.sendings.map Sending.command) = true ∧
      (((begin (attachedQuietly "x")).moved barrenHost passing).posts.filter (·.message.content.isPause)).isEmpty = true := by
  decide +kernel

end History
end Adapter
end RStepper
