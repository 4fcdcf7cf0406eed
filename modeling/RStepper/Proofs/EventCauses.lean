import RStepper.Proofs.RequestAnswers

/-! What leads to what. A worker is handed a request once, an inspection at once and a run behind the answer that
grants it, and whatever is reported or written of a request comes behind that. -/

namespace RStepper.Adapter
variable {σ : Type}

def Content.IsEvent : Content → Prop
  | .event .. => True
  | .request .. | .response .. => False

/-- The program stands or has ended. -/
def Content.isOutcome : Content → Bool
  | .event name _ => name == "stopped" || name == "terminated"
  | .request .. | .response .. => false

def Post.entry (post : Post) : Option Nat × Content :=
  (post.cause, post.message.content)

def outcomes (entries : List (Option Nat × Content)) : List (Option Nat × Content) :=
  entries.filter (·.2.isOutcome)

/-- The requests that a worker was handed, the last one first, with their places among all that were read. -/
def Ledger.handed (ledger : Ledger σ) (session : Session σ) : List (Option Nat × Request) :=
  (ledger.waiting.zip session.requests).reverse ++ ledger.taken.zip (ledger.chronicle.accounts.map Account.request)

/-- The request that a deed of the loop hands to the worker. -/
def LoopDeed.handsOn? : LoopDeed σ → Option Request
  | .submit request _ => some request
  | _ => none

/-- A message that grants a request came before, or the request is an inspection. -/
def Allowed (asked : List Asked) (posts : List Post) (place : Nat) : Prop :=
  (∃ post ∈ posts, post.Grants asked place) ∨
    ∃ request, asked[place]? = some request ∧ Inspecting request.command

theorem Allowed.read {asked : List Asked} {posts : List Post} {place : Nat} (allowed : Allowed asked posts place) :
    place < asked.length := by
  obtain ⟨_, _, _, _, _, read, _⟩ | ⟨_, read, _⟩ := allowed <;> exact (List.getElem?_eq_some_iff.mp read).1

theorem handsOn_cons {view : Content ⊕ LoopDeed σ} {rest : List (Content ⊕ LoopDeed σ)} (handsOn : HandsOn (view :: rest)) :
    (∃ request refusal, view = .inr (.submit request refusal)) ∨ HandsOn rest := by
  obtain ⟨request, refusal, member⟩ := handsOn
  rcases List.mem_cons.mp member with same | later
  · exact .inl ⟨request, refusal, same.symm⟩
  · exact .inr ⟨request, refusal, later⟩

theorem Orderly.handsOn {request : Option (Nat × String)} {isBroken : Bool} {stage : Stage} {views : List (Content ⊕ LoopDeed σ)}
    (orderly : Orderly request isBroken stage views) (handsOn : HandsOn views) : stage.owed = true ∨ stage.granted = true := by
  induction orderly with
  | rests | left =>
    obtain ⟨_, _, member⟩ := handsOn
    cases member
  | grants | refuses | sets | tells | inspects => exact .inl rfl
  | greets | runs => exact .inr rfl
  | stops _ ih | awaits _ ih | adopts _ ih | listens _ ih | joins _ ih | leaves _ _ ih =>
    obtain ⟨_, _, other⟩ | later := handsOn_cons handsOn
    · cases other
    · exact ih later

theorem written_of_perform? {server later : Server σ} {deed : LoopDeed σ} {more : List (Task (LoopDeed σ))}
    (performed : server.perform? deed = some (more, later)) : ∀ task ∈ more, ∃ content, task = .write content := by
  intro task member
  cases deed with
  | submit request refusal =>
    obtain ⟨_, rfl, _⟩ | ⟨_, rfl, _⟩ := Server.perform?_submit performed
    · cases member
    · obtain ⟨content, _, rfl⟩ := List.mem_map.mp member
      exact ⟨content, rfl⟩
  | tellStack =>
    cases performed
    exact ⟨_, List.mem_singleton.mp member⟩
  | setBreakpoints | adopt | listen | stop | leave =>
    cases performed
    cases member
  | awaitWorker =>
    obtain ⟨_, rfl, _⟩ := Server.perform?_awaitWorker performed
    cases member
  | join =>
    obtain ⟨_, rfl, _⟩ := Server.perform?_join performed
    cases member

namespace History

def handed (history : History σ) : List (Option Nat × Request) :=
  (List.zipWith Ledger.handed history.ledgers history.server.sessions).flatten

/-- What the forwarders wrote, session by session, and the causes. -/
def forwarded (history : History σ) : List (Option Nat × Content) :=
  history.ledgers.flatMap Ledger.forwarded

def places (history : History σ) : List Nat :=
  history.handed.filterMap Prod.fst

/-- A worker was handed a request that the client made: a run that was granted, or an inspection. -/
inductive Entitled (history : History σ) : Option Nat → Request → Prop where
  | run {place request post} (isRun : request.isRun = true) (run : place ∈ history.runs) (posted : post ∈ history.posts)
      (grants : post.Grants history.asked place) : Entitled history (some place) request
  | inspection {place request asked} (read : history.asked[place]? = some asked)
      (asks : request.asks? = some (asked.number, asked.command)) : Entitled history (some place) request
  | stop : Entitled history none .stop

end History

namespace Ledger

theorem handed_hand {ledger : Ledger σ} {session : Session σ} (same : ledger.waiting.length = session.requests.length)
    (cause : Option Nat) (request : Request) :
    (ledger.hand cause).handed { session with requests := session.requests ++ [request] } =
      (cause, request) :: ledger.handed session := by
  simp [handed, hand, List.zip_append same]

theorem requests_noted (events : List Event) (isStopping : Bool) (accounts : List (Account σ)) :
    (Chronicle.noted events isStopping accounts).map Account.request = accounts.map Account.request := by
  cases accounts <;> rfl

variable [Interpreter σ]

theorem handed_work {ledger : Ledger σ} {session later : Session σ} {breakpoints left : Breakpoints}
    (keeps : ledger.Keeps session) (worked : session.work? breakpoints = some (later, left)) :
    (ledger.work session).handed later = ledger.handed session := by
  have worker := keeps.worker
  cases Session.work?_cases worked with
  | @leg run activity =>
    have runs : ledger.chronicle.worker.activity = .running run := by rw [worker, activity]
    have work : ledger.work session = ledger.undergo .leg := by simp [work, activity]
    rw [work, undergo, Chronicle.move_leg runs]
    simp [handed, Chronicle.behind, requests_noted, Session.behind]
  | takes activity requests =>
    have idle : ledger.chronicle.worker.activity = .idle := by rw [worker, activity]
    have waits := keeps.waiting
    rw [requests] at waits
    obtain ⟨cause, waiting, causes⟩ := List.exists_cons_of_length_eq_add_one waits
    simp [work, activity, requests, Chronicle.move_request idle, handed, Chronicle.behind, requests_noted, Session.behind,
      causes]
  | releases activity stopping =>
    have work : ledger.work session = ledger.undergo .release := by simp [work, activity]
    have moves : ledger.chronicle.move .release = ledger.chronicle.behind
        ⟨session.worker.release.1, ledger.chronicle.breakpoints, session.worker.release.2⟩ := by
      simp [Chronicle.move, keeps.isStopping, stopping, worker]
    rw [work, undergo, moves]
    simp [handed, Chronicle.behind, requests_noted, Session.behind]

omit [Interpreter σ] in
theorem handed_of_reports {ledger : Ledger σ} {cause : Option Nat} {event : Event}
    (session : Session σ)
    (reported : (cause, event) ∈ ledger.reports) :
    (cause = none ∧ event ∈ ledger.chronicle.opening) ∨
      ∃ account, (cause, account) ∈ ledger.taken.zip ledger.chronicle.accounts ∧ event ∈ account.reports.map Report.event ∧
        (cause, account.request) ∈ ledger.handed session := by
  rcases List.mem_append.mp reported with early | late
  · obtain ⟨_, opening, same⟩ := List.mem_map.mp early
    cases same
    exact .inl ⟨rfl, opening⟩
  · obtain ⟨⟨_, account⟩, pair, member⟩ := List.mem_flatMap.mp late
    obtain ⟨report, inside, same⟩ := List.mem_map.mp member
    cases same
    have pair := List.mem_reverse.mp pair
    refine .inr ⟨account, pair, List.mem_map_of_mem inside, List.mem_append_right _ ?_⟩
    rw [List.zip_map_right]
    exact List.mem_map.mpr ⟨_, pair, rfl⟩

omit [Interpreter σ] in
theorem reported_of_latest {ledger : Ledger σ} {report : Option Nat × Event} (latest : ledger.latest? = some report) :
    report ∈ ledger.reports :=
  List.mem_of_mem_take (List.mem_of_getLast? latest)

omit [Interpreter σ] in
theorem handed_of_latestCause {ledger : Ledger σ} (session : Session σ) {place : Nat} (latest : ledger.latestCause = some place) :
    ∃ request, (some place, request) ∈ ledger.handed session := by
  obtain ⟨⟨cause, event⟩, found, rfl⟩ := Option.bind_eq_some_iff.mp latest
  obtain ⟨none, _⟩ | ⟨account, _, _, handed⟩ := handed_of_reports session (reported_of_latest found)
  · cases none
  · exact ⟨_, handed⟩

theorem Keeps.command_of_forwarding {ledger : Ledger σ} {session : Session σ} (keeps : ledger.Keeps session) {content : Content}
    {key : Nat × String} (member : content ∈ Task.contents session.forwarding) (answers : content.answers? = some key) :
    Inspecting key.2 := by
  have suffix := keeps.forwarding
  cases latest : ledger.latest? with
  | none =>
    rw [latest] at suffix
    rw [List.map_eq_nil_iff.mp (List.suffix_nil.mp suffix)] at member
    cases member
  | some report =>
    rw [latest] at suffix
    have whole : Task.contents session.forwarding <:+ Task.contents (forward session.announcesEntry report.2) :=
      suffix.filterMap _
    have answered : key ∈ (Task.contents (forward session.announcesEntry report.2)).filterMap Content.answers? :=
      List.mem_filterMap.mpr ⟨content, whole.subset member, answers⟩
    rw [answers?_contents] at answered
    have asked : report.2.answers? = some key := Option.mem_toList.mp answered
    generalize report.2 = event at asked
    cases event with
    | stopped | terminated | failed => cases asked
    | evaluated =>
      cases asked
      exact .inl rfl
    | _ =>
      cases asked
      exact .inr rfl

theorem Keeps.handed_of_cause {ledger : Ledger σ} {session : Session σ} (keeps : ledger.Keeps session) {place : Nat}
    (current : ledger.cause = some place) : ∃ request, (some place, request) ∈ ledger.handed session := by
  have same := keeps.taken
  unfold Ledger.cause at current
  unfold handed
  cases taken : ledger.taken with
  | nil => simp [taken] at current
  | cons cause causes =>
    rw [taken] at same current
    cases (show cause = some place from current)
    obtain ⟨account, accounts, chronicle⟩ := List.exists_cons_of_length_eq_add_one same.symm
    exact ⟨account.request, by simp [chronicle]⟩

end Ledger

theorem zipWith_set {β : Type} {weigh : Ledger σ → Session σ → β} {sessions : List (Session σ)} {ledgers : List (Ledger σ)}
    {age : Nat} {session after : Session σ} {ledger later : Ledger σ} (session? : sessions[age]? = some session)
    (ledger? : ledgers[age]? = some ledger) (same : weigh later after = weigh ledger session) :
    List.zipWith weigh (ledgers.set age later) (sessions.set age after) = List.zipWith weigh ledgers sessions := by
  induction sessions generalizing ledgers age with
  | nil => cases session?
  | cons first sessions ih =>
    cases ledgers with
    | nil => cases ledger?
    | cons firstLedger ledgers =>
      cases age with
      | zero =>
        cases session?
        cases ledger?
        simp [same]
      | succ age =>
        simp only [List.set_cons_succ, List.zipWith_cons_cons]
        rw [ih session? ledger?]

theorem zipWith_setSession {β : Type} {weigh : Ledger σ → Session σ → β} {sessions : List (Session σ)}
    {ledgers : List (Ledger σ)} {age : Nat} {session after : Session σ} {ledger : Ledger σ}
    (session? : sessions[age]? = some session) (ledger? : ledgers[age]? = some ledger)
    (same : weigh ledger after = weigh ledger session) :
    List.zipWith weigh ledgers (sessions.set age after) = List.zipWith weigh ledgers sessions := by
  have both := zipWith_set session? ledger? same
  rwa [set_self ledger?] at both

namespace History
variable [Interpreter σ]

/-- What is handed to workers, whatever happens. -/
inductive Hands (history later : History σ) : Prop where
  | nothing (handed : later.handed = history.handed) (runs : later.runs = history.runs)
  | submits {request refusal rest} (tasks : history.server.tasks = .own (.submit request refusal) :: rest)
      (left : later.server.tasks = rest) (asked : later.asked = history.asked)
      (handed : later.handed = (some history.latest, request) :: history.handed)
      (runs : later.runs = history.runs ++ if request.isRun then [history.latest] else [])
  | stops (handed : later.handed = (none, .stop) :: history.handed) (runs : later.runs = history.runs)

/-- The request loop does what it has in hand next. -/
inductive Does (history : History σ) : History σ → Prop where
  | deed {deed rest more after} (tasks : history.server.tasks = .own deed :: rest)
      (performed : history.server.perform? deed = some (more, after)) :
      Does history { history.noteDeed deed with server := { after with tasks := more ++ rest } }

theorem handed_deed {history : History σ} {stage : Stage} {deed : LoopDeed σ} {more : List (Task (LoopDeed σ))}
    {later : Server σ} (sound : history.SoundAt stage) (performed : history.server.perform? deed = some (more, later))
    (keeps : deed.handsOn? = none) (goesOn : deed ≠ .stop) (tasks : List (Task (LoopDeed σ))) :
    ({ history.noteDeed deed with server := { later with tasks } } : History σ).handed = history.handed ∧
      (history.noteDeed deed).runs = history.runs := by
  have newest := sound.newest
  cases deed with
  | submit => cases keeps
  | stop => exact absurd rfl goesOn
  | setBreakpoints points =>
    cases performed
    refine ⟨?_, rfl⟩
    obtain ⟨sessions, ledgers⟩ | ⟨session, former, ledger, older, sessions, ledgers, _⟩ := newest <;>
      simp [handed, noteDeed, sessions, ledgers, Ledger.handed, Ledger.undergo, Chronicle.move]
  | adopt debuggee stopsOnEntry showsOutput script =>
    cases performed
    exact ⟨by simp [handed, noteDeed, Ledger.handed, Ledger.start, Chronicle.start, Session.start], rfl⟩
  | listen =>
    cases performed
    refine ⟨?_, rfl⟩
    obtain ⟨sessions, ledgers⟩ | ⟨session, former, ledger, older, sessions, ledgers, _⟩ := newest <;>
      simp [handed, noteDeed, Server.mapSession, sessions, ledgers, Ledger.handed]
  | tellStack | leave =>
    cases performed
    exact ⟨rfl, rfl⟩
  | awaitWorker =>
    obtain ⟨_, rfl, rfl⟩ := Server.perform?_awaitWorker performed
    exact ⟨rfl, rfl⟩
  | join =>
    obtain ⟨_, rfl, rfl⟩ := Server.perform?_join performed
    exact ⟨rfl, rfl⟩

theorem handed_submit {history : History σ} {stage : Stage} (sound : history.SoundAt stage)
    (opened : history.server.session.any (·.isOpen) = true) (request : Request) (refusal : Option Content)
    (tasks : List (Task (LoopDeed σ))) :
    ({ history.noteDeed (.submit request refusal) with
      server := { history.server.mapSession fun session => { session with requests := session.requests ++ [request] } with
        tasks } } : History σ).handed = (some history.latest, request) :: history.handed := by
  simp only [noteDeed, opened, if_true]
  obtain ⟨sessions, _⟩ | ⟨session, former, ledger, older, sessions, ledgers, keeps⟩ := sound.newest
  · simp [Server.session, sessions] at opened
  · simp [handed, Server.mapSession, sessions, ledgers, Ledger.handed_hand keeps.waiting]

theorem hands_deed {history : History σ} {stage : Stage} {deed : LoopDeed σ} {rest more : List (Task (LoopDeed σ))}
    {later : Server σ} (sound : history.SoundAt stage) (tasks : history.server.tasks = .own deed :: rest)
    (performed : history.server.perform? deed = some (more, later)) :
    Hands history { history.noteDeed deed with server := { later with tasks := more ++ rest } } := by
  cases deed with
  | submit request refusal =>
    obtain ⟨opened, rfl, rfl⟩ | ⟨opened, rfl, rfl⟩ := Server.perform?_submit performed
    · refine .submits tasks rfl (history.noteDeed_kept _).1 (handed_submit sound opened request refusal rest) ?_
      simp only [noteDeed, opened, if_true]
    · simp only [noteDeed, opened, Bool.false_eq_true, if_false]
      exact .nothing rfl rfl
  | stop =>
    cases performed
    obtain ⟨sessions, ledgers⟩ | ⟨session, former, ledger, older, sessions, ledgers, keeps⟩ := sound.newest
    · exact .nothing (by simp [handed, noteDeed, Server.mapSession, sessions, ledgers]) rfl
    · have hands := Ledger.handed_hand keeps.waiting none .stop
      refine .stops ?_ rfl
      simp only [handed, noteDeed, Server.mapSession, sessions, ledgers, List.modifyHead_cons, List.zipWith_cons_cons,
        List.flatten_cons, ← List.cons_append, ← hands]
      rfl
  | _ =>
    obtain ⟨handed, runs⟩ := handed_deed sound performed rfl (by rintro ⟨⟩) (more ++ rest)
    exact .nothing handed runs

theorem Happens.does_or_keeps {host : Host σ} {history later : History σ} (happens : Happens host history later)
    (sound : history.Sound) : history.Does later ∨ later.handed = history.handed ∧ later.runs = history.runs := by
  obtain ⟨stage, sound⟩ := sound
  cases happens with
  | nothing | reads | ends | breaks | loopWrites => exact .inr ⟨rfl, rfl⟩
  | loopDoes tasks performed => exact .inl (.deed tasks performed)
  | workerWrites sessions first busy writes =>
    obtain ⟨older, ledgers⟩ := List.head?_eq_some_iff.mp first
    refine .inr ⟨?_, rfl⟩
    simp [handed, sessions, ledgers, History.post, Ledger.handed]
  | @workerDoes session former deed rest sessions tasks =>
    refine .inr ⟨?_, rfl⟩
    cases deed <;> cases ledgers : history.ledgers <;> simp [handed, sessions, ledgers, Session.took, Ledger.handed]
  | @works session former ledger older after left sessions ledgers free worked =>
    have keeps := (sound.held 0 session ledger (by rw [sessions]; rfl) (by rw [ledgers]; rfl)).1
    refine .inr ⟨?_, rfl⟩
    simp [handed, sessions, ledgers, Ledger.handed_work keeps worked]
  | forwarderWrites session? ledger? busy writes =>
    exact .inr ⟨congrArg List.flatten (zipWith_set session? ledger? rfl), rfl⟩
  | hears session? ledger? free events heard =>
    exact .inr ⟨congrArg List.flatten (zipWith_set session? ledger? rfl), rfl⟩
  | showsFrames session? forwarding =>
    obtain ⟨ledger, ledger?, _⟩ := sound.ledger session?
    exact .inr ⟨congrArg List.flatten (zipWith_setSession session? ledger? rfl), rfl⟩
  | hangsUp session? forwarding =>
    obtain ⟨ledger, ledger?, _⟩ := sound.ledger session?
    exact .inr ⟨congrArg List.flatten (zipWith_setSession session? ledger? rfl), rfl⟩

theorem Happens.hands {host : Host σ} {history later : History σ} (happens : Happens host history later)
    (sound : history.Sound) : Hands history later := by
  obtain ⟨tasks, performed⟩ | ⟨handed, runs⟩ := happens.does_or_keeps sound
  · obtain ⟨stage, sound⟩ := sound
    exact hands_deed sound tasks performed
  · exact .nothing handed runs

theorem Happens.grows {host : Host σ} {history later : History σ} (happens : Happens host history later) :
    history.posts <+: later.posts ∧ history.asked <+: later.asked ∧ history.runs <+: later.runs := by
  cases happens with
  | reads => exact ⟨List.prefix_rfl, List.prefix_append _ _, List.prefix_rfl⟩
  | loopDoes tasks performed =>
    rename_i deed _ _ _
    cases deed with
    | submit request refusal =>
      dsimp only [noteDeed]
      split
      · exact ⟨List.prefix_rfl, List.prefix_rfl, List.prefix_append _ _⟩
      · exact ⟨List.prefix_rfl, List.prefix_rfl, List.prefix_rfl⟩
    | _ => exact ⟨List.prefix_rfl, List.prefix_rfl, List.prefix_rfl⟩
  | loopWrites | workerWrites | forwarderWrites => exact ⟨List.prefix_append _ _, List.prefix_rfl, List.prefix_rfl⟩
  | _ => exact ⟨List.prefix_rfl, List.prefix_rfl, List.prefix_rfl⟩

theorem Happens.sessions_le {host : Host σ} {history later : History σ} (happens : Happens host history later) :
    history.server.sessions.length ≤ later.server.sessions.length := by
  cases happens with
  | @loopDoes deed rest more after tasks performed =>
    cases deed with
    | submit =>
      obtain ⟨_, rfl, rfl⟩ | ⟨_, rfl, rfl⟩ := Server.perform?_submit performed
      · exact Nat.le_of_eq List.length_modifyHead.symm
      · exact Nat.le_refl _
    | awaitWorker =>
      obtain ⟨_, rfl, rfl⟩ := Server.perform?_awaitWorker performed
      exact Nat.le_refl _
    | join =>
      obtain ⟨_, rfl, rfl⟩ := Server.perform?_join performed
      exact Nat.le_refl _
    | adopt =>
      cases performed
      exact Nat.le_succ _
    | listen | stop =>
      cases performed
      exact Nat.le_of_eq List.length_modifyHead.symm
    | setBreakpoints | tellStack | leave =>
      cases performed
      exact Nat.le_refl _
  | workerWrites sessions | workerDoes sessions | works sessions => simp [sessions]
  | forwarderWrites | showsFrames | hangsUp | hears => exact Nat.le_of_eq List.length_set.symm
  | nothing | reads | ends | breaks | loopWrites => exact Nat.le_refl _

omit [Interpreter σ] in
theorem read_later {asked more : List Asked} {place : Nat} {request : Asked} (read : asked[place]? = some request)
    (grown : asked <+: more) : more[place]? = some request := by
  obtain ⟨new, rfl⟩ := grown
  rw [List.getElem?_append_left (List.getElem?_eq_some_iff.mp read).1]
  exact read

omit [Interpreter σ] in
theorem grants_later {post : Post} {asked more : List Asked} {place : Nat} (grants : post.Grants asked place)
    (grown : asked <+: more) : post.Grants more place := by
  obtain ⟨cause, request, body, read, own, content⟩ := grants
  exact ⟨cause, request, body, read_later read grown, own, content⟩

omit [Interpreter σ] in
theorem allowed_later {asked more : List Asked} {posts : List Post} {place : Nat} (allowed : Allowed asked posts place)
    (grown : asked <+: more) : Allowed more posts place := by
  rcases allowed with ⟨post, posted, grants⟩ | ⟨request, read, command⟩
  · exact .inl ⟨post, posted, grants_later grants grown⟩
  · exact .inr ⟨request, read_later read grown, command⟩

omit [Interpreter σ] in
theorem Entitled.allowed {history : History σ} {place : Nat} {request : Request} (entitled : history.Entitled (some place) request) :
    Allowed history.asked history.posts place := by
  cases entitled with
  | run _ _ posted grants => exact .inl ⟨_, posted, grants⟩
  | inspection read asks =>
    refine .inr ⟨_, read, ?_⟩
    cases request with
    | run | runTo | stop => cases asks
    | evaluate id expression => exact .inl (congrArg Prod.snd (Option.some.inj asks)).symm
    | _ id => exact .inr (congrArg Prod.snd (Option.some.inj asks)).symm

theorem Happens.entitled {host : Host σ} {history later : History σ} {cause : Option Nat} {request : Request}
    (happens : Happens host history later) (entitled : history.Entitled cause request) : later.Entitled cause request := by
  obtain ⟨posts, asked, runs⟩ := happens.grows
  cases entitled with
  | run isRun run posted grants => exact .run isRun (runs.subset run) (posts.subset posted) (grants_later grants asked)
  | inspection read asks => exact .inspection (read_later read asked) asks
  | stop => exact .stop

/-- The loop hands on what it was granted, or what the client asks for. -/
theorem SoundAt.entitles {history later : History σ} {stage : Stage} {request : Request} {refusal : Option Content}
    {rest : List (Task (LoopDeed σ))} (sound : history.SoundAt stage)
    (tasks : history.server.tasks = .own (.submit request refusal) :: rest) (asked : later.asked = history.asked)
    (posts : history.posts ⊆ later.posts) (runs : later.runs = history.runs ++ if request.isRun then [history.latest] else []) :
    later.Entitled (some history.latest) request ∧ history.latest < history.asked.length ∧ ¬ HandsOn (rest.map Task.view) := by
  have orderly := sound.orderly
  rw [tasks] at orderly
  change Orderly _ _ _ (.inr (.submit request refusal) :: rest.map Task.view) at orderly
  cases orderly with
  | runs orderly =>
    obtain ⟨post, posted, grants⟩ := sound.granted rfl
    have ⟨_, _, _, read, _⟩ := grants
    refine ⟨.run rfl ?_ (posts posted) (asked ▸ grants), (List.getElem?_eq_some_iff.mp read).1, ?_⟩
    · rw [runs]
      exact List.mem_append_right _ List.mem_cons_self
    · intro handsOn
      simpa using orderly.handsOn handsOn
  | inspects current asks orderly =>
    obtain ⟨_, read, rfl, rfl⟩ := asked_latest current
    refine ⟨.inspection (asked ▸ read) asks, (List.getElem?_eq_some_iff.mp read).1, ?_⟩
    intro handsOn
    simpa using orderly.handsOn handsOn

/-- What a happening writes, and what the forwarder has of it. -/
structure Writes (history later : History σ) (new : List Post) : Prop where
  posts : later.posts = history.posts ++ new
  written : later.server.written = history.server.written ++ new.map Post.message
  single : new.length ≤ 1
  read : ∀ post ∈ new, ∀ place, post.cause = some place → place < history.asked.length
  allowed : ∀ post ∈ new, post.message.content.IsEvent → ∀ place, post.cause = some place →
    Allowed history.asked history.posts place
  delivered : ∀ entry ∈ later.forwarded, entry ∈ history.forwarded ∨ entry ∈ new.map Post.entry
  told : history.server.sessions.length ≤ 1 →
    outcomes later.forwarded = outcomes history.forwarded ++ outcomes (new.map Post.entry)

omit [Interpreter σ] in
theorem writes_nothing {history later : History σ} (posts : later.posts = history.posts)
    (written : later.server.written = history.server.written) (same : later.forwarded = history.forwarded) :
    Writes history later [] where
  posts := by rw [posts, List.append_nil]
  written := by rw [written, List.map_nil, List.append_nil]
  single := Nat.zero_le _
  read := nofun
  allowed := nofun
  delivered _ member := .inl (same ▸ member)
  told _ := by simp [same, outcomes]

theorem writes_deed {history : History σ} {deed : LoopDeed σ} {rest more : List (Task (LoopDeed σ))} {later : Server σ}
    (performed : history.server.perform? deed = some (more, later)) :
    Writes history { history.noteDeed deed with server := { later with tasks := more ++ rest } } [] := by
  have head {alter : Ledger σ → Ledger σ} (same : ∀ ledger, (alter ledger).forwarded = ledger.forwarded) :
      (history.ledgers.modifyHead alter).flatMap Ledger.forwarded = history.ledgers.flatMap Ledger.forwarded := by
    cases history.ledgers with
    | nil => rfl
    | cons ledger older => simp [same]
  cases deed with
  | submit request refusal =>
    obtain ⟨opened, rfl, rfl⟩ | ⟨opened, rfl, rfl⟩ := Server.perform?_submit performed
    case inr =>
      simp only [noteDeed, opened, Bool.false_eq_true, if_false]
      exact writes_nothing rfl rfl rfl
    case inl =>
      simp only [noteDeed, opened, if_true]
      exact writes_nothing rfl rfl (head fun _ => rfl)
  | stop | setBreakpoints =>
    cases performed
    exact writes_nothing rfl rfl (head fun _ => rfl)
  | adopt | tellStack | leave | listen =>
    cases performed
    exact writes_nothing rfl rfl rfl
  | awaitWorker =>
    obtain ⟨_, rfl, rfl⟩ := Server.perform?_awaitWorker performed
    exact writes_nothing rfl rfl rfl
  | join =>
    obtain ⟨_, rfl, rfl⟩ := Server.perform?_join performed
    exact writes_nothing rfl rfl rfl

omit [Interpreter σ] in
theorem mem_handed {history : History σ} {age : Nat} {session : Session σ} {ledger : Ledger σ} {pair : Option Nat × Request}
    (session? : history.server.sessions[age]? = some session) (ledger? : history.ledgers[age]? = some ledger)
    (handed : pair ∈ ledger.handed session) : pair ∈ history.handed := by
  refine List.mem_flatten.mpr ⟨_, List.mem_of_getElem? (i := age) ?_, handed⟩
  simp [List.getElem?_zipWith, session?, ledger?]

theorem only_of_getElem? {α : Type} {items : List α} {index : Nat} {item : α} (item? : items[index]? = some item)
    (one : items.length ≤ 1) : index = 0 ∧ items = [item] := by
  obtain ⟨inside, rfl⟩ := List.getElem?_eq_some_iff.mp item?
  obtain ⟨item, rfl⟩ := List.length_eq_one_iff.mp (Nat.le_antisymm one (by omega))
  obtain rfl : index = 0 := Nat.lt_one_iff.mp inside
  exact ⟨rfl, rfl⟩

theorem Happens.writes {host : Host σ} {history later : History σ} (happens : Happens host history later)
    (sound : history.Sound) (entitled : ∀ cause request, (cause, request) ∈ history.handed → history.Entitled cause request) :
    ∃ new, Writes history later new := by
  obtain ⟨stage, sound⟩ := sound
  cases happens with
  | nothing | reads | ends | breaks | workerDoes | showsFrames | hangsUp =>
    exact ⟨[], writes_nothing rfl rfl rfl⟩
  | loopDoes tasks performed => exact ⟨[], writes_deed performed⟩
  | @works session former ledger older after left sessions ledgers free worked =>
    refine ⟨[], writes_nothing rfl rfl ?_⟩
    simp [forwarded, ledgers, (ledger.work_heard session).2]
  | @hears age session ledger event rest session? ledger? free events heard =>
    refine ⟨[], writes_nothing rfl rfl ?_⟩
    simp only [forwarded, List.flatMap_def, List.map_set]
    rw [set_self (by simp [ledger?])]
  | @loopWrites wire rest writes =>
    have said : ∀ message ∈ Task.posted? history.server.tasks, message.content.isOutcome = false ∧
        (message.content.IsEvent → stage.granted = true) ∧ history.latest < history.asked.length := by
      intro message posted
      have orderly := sound.orderly
      rw [writes.views, posted] at orderly
      change Orderly _ _ _ (.inl message.content :: rest.map Task.view) at orderly
      generalize message.content = content at orderly
      cases orderly with
      | grants asked | refuses asked =>
        obtain ⟨_, read, _⟩ := asked_latest asked
        exact ⟨rfl, False.elim, (List.getElem?_eq_some_iff.mp read).1⟩
      | greets _ =>
        obtain ⟨_, _, _, _, _, read, _⟩ := sound.granted rfl
        exact ⟨rfl, fun _ => rfl, (List.getElem?_eq_some_iff.mp read).1⟩
    refine ⟨(Task.posted? history.server.tasks).toList.map (⟨·, some history.latest⟩), rfl, ?_, ?_, ?_, ?_, fun _ => .inl, ?_⟩
    · simpa [Server.written, Function.comp_def] using writes.written
    · cases Task.posted? history.server.tasks <;> simp
    · intro post member place same
      obtain ⟨message, posted, rfl⟩ := List.mem_map.mp member
      cases same
      exact (said message (Option.mem_toList.mp posted)).2.2
    · intro post member event place same
      obtain ⟨message, posted, rfl⟩ := List.mem_map.mp member
      cases same
      exact .inl (sound.granted ((said message (Option.mem_toList.mp posted)).2.1 event))
    · intro _
      cases posted : Task.posted? history.server.tasks with
      | none => simp [outcomes, forwarded, History.post]
      | some message => simp [outcomes, forwarded, History.post, Post.entry, (said message posted).1]
  | @workerWrites session former ledger wire rest sessions first busy writes =>
    have session? : history.server.sessions[0]? = some session := by rw [sessions]; rfl
    have ledger? : history.ledgers[0]? = some ledger := by rw [← first, List.head?_eq_getElem?]
    have keeps := (sound.held 0 session ledger session? ledger?).1
    have output : ∀ message ∈ Task.posted? session.tasks, ∃ body, message.content = .event "output" (some body) := by
      intro message posted
      exact keeps.outputs message.content (by simp [writes.contents, show Task.posted? session.tasks = some message from posted])
    have allowed (post : Post) (member : post ∈ (Task.posted? session.tasks).toList.map (⟨·, ledger.cause⟩)) (place : Nat)
        (same : post.cause = some place) : Allowed history.asked history.posts place := by
      obtain ⟨message, posted, rfl⟩ := List.mem_map.mp member
      obtain ⟨request, handed⟩ := keeps.handed_of_cause same
      exact (entitled _ _ (mem_handed session? ledger? handed)).allowed
    refine ⟨(Task.posted? session.tasks).toList.map (⟨·, ledger.cause⟩), rfl, ?_, ?_, ?_, ?_, fun _ => .inl, ?_⟩
    · simpa [Server.written, Function.comp_def] using writes.written
    · cases Task.posted? session.tasks <;> simp
    · exact fun post member place same => (allowed post member place same).read
    · exact fun post member _ => allowed post member
    · intro _
      cases posted : Task.posted? session.tasks with
      | none => simp [outcomes, forwarded, History.post]
      | some message =>
        obtain ⟨body, output⟩ := output message posted
        simp [outcomes, forwarded, History.post, Post.entry, output, Content.isOutcome]
  | @forwarderWrites age session ledger wire rest session? ledger? busy writes =>
    have allowed (post : Post) (member : post ∈ (Task.posted? session.forwarding).toList.map (⟨·, ledger.latestCause⟩))
        (place : Nat) (same : post.cause = some place) : Allowed history.asked history.posts place := by
      obtain ⟨message, posted, rfl⟩ := List.mem_map.mp member
      obtain ⟨request, handed⟩ := Ledger.handed_of_latestCause session same
      exact (entitled _ _ (mem_handed session? ledger? handed)).allowed
    refine ⟨(Task.posted? session.forwarding).toList.map (⟨·, ledger.latestCause⟩), rfl, ?_, ?_, ?_, ?_, ?_, ?_⟩
    · simpa [Server.written, Function.comp_def] using writes.written
    · cases Task.posted? session.forwarding <;> simp
    · exact fun post member place same => (allowed post member place same).read
    · exact fun post member _ => allowed post member
    · intro entry member
      obtain ⟨changed, inside, member⟩ := List.mem_flatMap.mp member
      rcases List.mem_or_eq_of_mem_set inside with same | rfl
      · exact .inl (List.mem_flatMap.mpr ⟨changed, same, member⟩)
      · rcases List.mem_append.mp member with old | new
        · exact .inl (List.mem_flatMap.mpr ⟨ledger, List.mem_of_getElem? ledger?, old⟩)
        · exact .inr (by simpa [Post.entry] using new)
    · intro one
      obtain ⟨rfl, only⟩ := only_of_getElem? ledger? (sound.paired ▸ one)
      simp only [outcomes, forwarded, only, List.set_cons_zero, List.flatMap_singleton, Ledger.wrote,
        List.filter_append, List.map_map]
      rfl

structure LoopWrites (history later : History σ) (post : Post) : Prop where
  cause : post.cause = some history.latest
  views : history.server.tasks.map Task.view = .inl post.message.content :: later.server.tasks.map Task.view
  asked : later.asked = history.asked
  sessions : later.server.sessions = history.server.sessions
  serving : later.server.isServing = history.server.isServing

/-- An answer comes from the loop, unless it is the one to an inspection. -/
theorem Happens.answers {host : Host σ} {history later : History σ} (happens : Happens host history later)
    (sound : history.Sound) {post : Post} (posted : post ∈ later.posts) {key : Nat × String}
    (answers : post.message.content.answers? = some key) :
    post ∈ history.posts ∨ Inspecting key.2 ∨ LoopWrites history later post := by
  obtain ⟨stage, sound⟩ := sound
  cases happens with
  | @loopWrites wire rest writes =>
    apply (List.mem_append.mp posted).imp_right
    intro new
    obtain ⟨message, said, rfl⟩ := List.mem_map.mp new
    have views := writes.views
    rw [Option.mem_toList.mp said] at views
    exact .inr ⟨rfl, views, rfl, rfl, rfl⟩
  | @workerWrites session former ledger wire rest sessions first busy writes =>
    apply (List.mem_append.mp posted).imp_right
    intro new
    obtain ⟨message, said, rfl⟩ := List.mem_map.mp new
    have keeps := (sound.held 0 session ledger (by rw [sessions]; rfl) (by rw [← first, List.head?_eq_getElem?])).1
    obtain ⟨body, output⟩ := keeps.outputs message.content
      (by rw [writes.contents]; exact List.mem_append_left _ (List.mem_map_of_mem said))
    rw [output] at answers
    cases answers
  | @forwarderWrites age session ledger wire rest session? ledger? busy writes =>
    apply (List.mem_append.mp posted).imp_right
    intro new
    obtain ⟨message, said, rfl⟩ := List.mem_map.mp new
    have keeps := (sound.held age session ledger session? ledger?).1
    refine .inl (keeps.command_of_forwarding ?_ answers)
    rw [writes.contents]
    exact List.mem_append_left _ (List.mem_map_of_mem said)
  | loopDoes => exact .inl ((history.noteDeed_kept _).2 ▸ posted)
  | _ => exact .inl posted

/-- Requests are handed on in the order in which they were read, each of them once. -/
structure InTurn (history : History σ) : Prop where
  ordered : history.places.Pairwise (· > ·)
  read : ∀ place ∈ history.places, place < history.asked.length
  handsOn : HandsOn (history.server.tasks.map Task.view) → ∀ place ∈ history.places, place < history.latest
  entitled : ∀ cause request, (cause, request) ∈ history.handed → history.Entitled cause request

/-- What is written is put down with its cause, and of a request nothing is written but what is allowed. -/
structure Warranted (history : History σ) : Prop where
  written : history.posts.map Post.message = history.server.written
  read : ∀ post ∈ history.posts, ∀ place, post.cause = some place → place < history.asked.length
  allowed : ∀ before post behind, history.posts = before ++ post :: behind → post.message.content.IsEvent →
    ∀ place, post.cause = some place → Allowed history.asked before place
  delivered : history.forwarded ⊆ history.posts.map Post.entry
  /-- Of the program nobody tells but the forwarder. -/
  told : history.server.sessions.length ≤ 1 → outcomes (history.posts.map Post.entry) = outcomes history.forwarded

theorem Happens.handsOn {host : Host σ} {history later : History σ} (happens : Happens host history later)
    (handsOn : HandsOn (later.server.tasks.map Task.view)) :
    (HandsOn (history.server.tasks.map Task.view) ∧ later.asked = history.asked) ∨
      later.asked.length = history.asked.length + 1 := by
  cases happens with
  | reads ready => exact .inr List.length_append
  | ends ready | breaks ready =>
    obtain ⟨_, _, member⟩ := handsOn
    simp [Task.view] at member
  | @loopWrites wire rest writes =>
    obtain ⟨request, refusal, member⟩ := handsOn
    refine .inl ⟨⟨request, refusal, ?_⟩, rfl⟩
    rw [writes.views]
    exact List.mem_append_right _ member
  | @loopDoes deed rest more after tasks performed =>
    obtain ⟨request, refusal, member⟩ := handsOn
    refine .inl ⟨⟨request, refusal, ?_⟩, (history.noteDeed_kept deed).1⟩
    rw [tasks]
    rcases List.mem_append.mp (List.map_append ▸ member) with told | kept
    · obtain ⟨task, inside, view⟩ := List.mem_map.mp told
      obtain ⟨content, rfl⟩ := written_of_perform? performed task inside
      cases view
    · exact List.mem_cons_of_mem _ kept
  | _ => exact .inl ⟨handsOn, rfl⟩

theorem Happens.inTurn {host : Host σ} {history later : History σ} (happens : Happens host history later)
    (sound : history.Sound) (inTurn : history.InTurn) : later.InTurn := by
  have hands := happens.hands sound
  obtain ⟨posts, asked, _⟩ := happens.grows
  obtain ⟨stage, sound⟩ := sound
  have entitled : ∀ cause request, (cause, request) ∈ history.handed → later.Entitled cause request := by
    intro cause request handed
    exact happens.entitled (inTurn.entitled cause request handed)
  have read : ∀ place ∈ history.places, place < later.asked.length := by
    intro place member
    exact Nat.lt_of_lt_of_le (inTurn.read place member) asked.length_le
  have handsOn (hands : HandsOn (later.server.tasks.map Task.view)) : ∀ place ∈ history.places, place < later.latest := by
    intro place member
    rcases happens.handsOn hands with ⟨before, same⟩ | longer
    · rw [latest, same]
      exact inTurn.handsOn before place member
    · have inside := inTurn.read place member
      rw [latest, longer]
      omega
  cases hands with
  | nothing handed =>
    have places : later.places = history.places := by rw [History.places, handed, History.places]
    exact ⟨places ▸ inTurn.ordered, places ▸ read, places ▸ handsOn, handed ▸ entitled⟩
  | stops handed =>
    have places : later.places = history.places := by rw [History.places, handed]; rfl
    refine ⟨places ▸ inTurn.ordered, places ▸ read, places ▸ handsOn, ?_⟩
    rw [handed]
    rintro _ _ (_ | ⟨_, member⟩)
    · exact .stop
    · exact entitled _ _ member
  | submits tasks left same handed runs =>
    have places : later.places = history.latest :: history.places := by rw [History.places, handed]; rfl
    have older : ∀ place ∈ history.places, place < history.latest := by
      apply inTurn.handsOn
      rw [tasks]
      exact ⟨_, _, List.mem_cons_self⟩
    obtain ⟨entitles, inside, resting⟩ := sound.entitles tasks same posts.subset runs
    refine ⟨places ▸ inTurn.ordered.cons older, ?_, fun hands => absurd (left ▸ hands) resting, ?_⟩
    · rw [places, same]
      rintro _ (_ | ⟨_, member⟩)
      · exact inside
      · exact inTurn.read _ member
    · rw [handed]
      rintro _ _ (_ | ⟨_, member⟩)
      · exact entitles
      · exact entitled _ _ member

theorem split_append {α : Type} {items new before behind : List α} {item : α} (single : new.length ≤ 1)
    (split : items ++ new = before ++ item :: behind) :
    (before = items ∧ new = [item] ∧ behind = []) ∨ ∃ rest, items = before ++ item :: rest := by
  have first {middle : List α} (rest : new = middle ++ item :: behind) : middle = [] ∧ behind = [] := by
    rw [rest, List.length_append, List.length_cons] at single
    exact ⟨List.eq_nil_of_length_eq_zero (by omega), List.eq_nil_of_length_eq_zero (by omega)⟩
  rcases List.append_eq_append_iff.mp split with ⟨middle, rfl, rest⟩ | ⟨middle, front, rest⟩
  · obtain ⟨rfl, rfl⟩ := first rest
    exact .inl ⟨List.append_nil _, rest, rfl⟩
  · cases middle with
    | nil =>
      obtain ⟨_, rfl⟩ := first (show new = [] ++ item :: behind from rest.symm)
      exact .inl ⟨by rw [front, List.append_nil], rest.symm, rfl⟩
    | cons _ middle =>
      cases rest
      exact .inr ⟨middle, front⟩

theorem Happens.warranted {host : Host σ} {history later : History σ} (happens : Happens host history later)
    (sound : history.Sound) (inTurn : history.InTurn) (warranted : history.Warranted) : later.Warranted := by
  obtain ⟨new, writes⟩ := happens.writes sound inTurn.entitled
  obtain ⟨posts, asked, _⟩ := happens.grows
  constructor
  case written => rw [writes.posts, writes.written, List.map_append, warranted.written]
  case read =>
    intro post member place cause
    rw [writes.posts] at member
    have read : place < history.asked.length :=
      (List.mem_append.mp member).elim (warranted.read post · place cause) (writes.read post · place cause)
    exact Nat.lt_of_lt_of_le read asked.length_le
  case allowed =>
    intro before post behind split event place cause
    rw [writes.posts] at split
    rcases split_append writes.single split with ⟨rfl, rfl, _⟩ | ⟨rest, split⟩
    · exact allowed_later (writes.allowed post List.mem_cons_self event place cause) asked
    · exact allowed_later (warranted.allowed before post rest split event place cause) asked
  case delivered =>
    intro entry member
    rw [writes.posts, List.map_append, List.mem_append]
    exact (writes.delivered entry member).imp_left (warranted.delivered ·)
  case told =>
    intro one
    have before : history.server.sessions.length ≤ 1 := Nat.le_trans happens.sessions_le one
    rw [writes.told before, ← warranted.told before, writes.posts, List.map_append]
    exact List.filter_append ..

/-- What holds at a beginning and is kept by everything that happens, as long as requests are handed on in turn and what
is written is warranted: all of this holds of all that is reached. -/
theorem warranted_induction {host : Host σ} {motive : History σ → Prop} {attached : Option (Debuggee σ × Bool)}
    (initial : motive (begin attached))
    (step : ∀ history later, history.Sound → history.InTurn → history.Warranted → Happens host history later →
      motive history → motive later) (occurrences : List Occurrence) :
    let history := (begin attached).moved host occurrences
    history.Sound ∧ history.InTurn ∧ history.Warranted ∧ motive history := by
  have handed : (begin attached).handed = [] := rfl
  have places : (begin attached).places = [] := by rw [History.places, handed]; rfl
  apply happens_induction (motive := fun history => history.InTurn ∧ history.Warranted ∧ motive history)
  · refine ⟨?_, ?_, initial⟩
    · constructor
      case ordered => simp [places]
      case read => simp [places]
      case handsOn => simp [places]
      case entitled => simp [handed]
    · constructor
      case written => cases attached <;> rfl
      case read => simp [begin]
      case allowed => simp [begin]
      case delivered => simp [begin, forwarded]
      case told => simp [begin, forwarded]
  · intro history later sound happens ⟨inTurn, warranted, holds⟩
    refine ⟨happens.inTurn sound inTurn, happens.warranted sound inTurn warranted, ?_⟩
    exact step history later sound inTurn warranted happens holds

end History
end RStepper.Adapter
