import RStepper.Interpreter.Scripted
import RStepper.Proofs.FrameAnswers
import RStepper.Proofs.SetupOrder

/-! What has become of the requests when serving is over. Each of them has its answer, and each step its own pause or
end, but for what came too late for its program, and for what serving did not wait for. -/

namespace RStepper

theorem isRun_of_request {σ : Type} {account : Account σ} (isRun : account.request.isRun = true) : account.IsRun := by
  unfold Account.IsRun
  cases request : account.request with
  | run mode => exact .inl ⟨mode, rfl⟩
  | runTo target => exact .inr ⟨target, rfl⟩
  | _ => simp [Request.isRun, request] at isRun

namespace Adapter
variable {σ : Type}

theorem outcome_of_endsRun {event : Event} (ends : event.EndsRun) (announcesEntry : Bool) :
    ∃ content, outcome? announcesEntry event = some content := by
  cases event with
  | stopped stop => exact ⟨_, if_neg fun hidden => ends hidden.1⟩
  | terminated | failed => exact ⟨_, rfl⟩
  | _ => cases ends

/-- What a client reads of a request that was granted, and of the program. -/
def Content.headline? (content : Content) : Option String :=
  match content with
  | .response _ true command _ _ => some command
  | .event name _ => if content.isOutcome then some name else none
  | _ => none

/-- What the forwarder of a session has still to write, and the causes. -/
def Ledger.untold (ledger : Ledger σ) (session : Session σ) : List (Option Nat × Content) :=
  (Task.contents session.forwarding).map (ledger.latestCause, ·) ++
    (ledger.reports.drop ledger.heard).flatMap (Ledger.tellings session.announcesEntry)

/-- What is said of a session of an age and of its ledger holds of one of them. -/
def Any (property : Nat → Session σ → Ledger σ → Prop) (sessions : List (Session σ)) (ledgers : List (Ledger σ)) : Prop :=
  ∃ age session ledger, sessions[age]? = some session ∧ ledgers[age]? = some ledger ∧ property age session ledger

theorem isDone_iff {session : Session σ} : session.isDone = true ↔ session.worker.hasEnded = true ∧ session.tasks = [] := by
  simp [Session.isDone]

namespace Ledger

theorem answers?_tellings (announcesEntry : Bool) (reports : List (Option Nat × Event)) :
    (reports.flatMap (tellings announcesEntry)).filterMap (·.2.answers?) =
      (reports.map Prod.snd).filterMap Event.answers? := by
  induction reports with
  | nil => rfl
  | cons report rest ih =>
    have first : (tellings announcesEntry report).filterMap (·.2.answers?) = report.2.answers?.toList := by
      rw [← answers?_contents announcesEntry report.2, tellings, List.filterMap_map]
      rfl
    rw [List.flatMap_cons, List.filterMap_append, first, ih, List.map_cons, List.filterMap_cons]
    cases report.2.answers? <;> rfl

variable [Interpreter σ]

theorem Keeps.forwarded_untold {ledger : Ledger σ} {session : Session σ} (keeps : ledger.Keeps session) :
    ledger.forwarded ++ ledger.untold session = ledger.reports.flatMap (tellings session.announcesEntry) := by
  rw [untold, ← List.append_assoc, keeps.forwarded, ← List.flatMap_append, told, List.take_append_drop]

/-- A worker that is done owes what it has not taken up, and what its forwarder has not told. -/
theorem Keeps.owed_of_isDone {ledger : Ledger σ} {session : Session σ} (keeps : ledger.Keeps session)
    (done : session.isDone = true) {key : Nat × String} (owed : key ∈ session.owed) :
    key ∈ session.requests.filterMap Request.asks? ∨ key ∈ (ledger.untold session).filterMap (·.2.answers?) := by
  obtain ⟨ended, tasks⟩ := isDone_iff.mp done
  have withheld : session.worker.withheld = [] := by rw [Worker.withheld, Worker.hasEnded_iff.mp ended]
  have silent : session.reporting? = [] := by rw [Session.reporting?, tasks]; rfl
  have reported := keeps.reported
  rw [silent, List.append_nil] at reported
  have later : (ledger.untold session).filterMap (·.2.answers?) =
      (Task.contents session.forwarding).filterMap Content.answers? ++ session.events.filterMap Event.answers? := by
    rw [untold, List.filterMap_append, answers?_tellings, reported, List.filterMap_map]
    rfl
  rw [later, List.mem_append]
  simp only [Session.owed, withheld, silent, List.filterMap_nil, List.append_nil, List.mem_append] at owed
  rcases owed with (waits | reported) | told
  · exact .inl waits
  · exact .inr (.inr reported)
  · exact .inr (.inl told)

theorem Keeps.untold_of_isOver {ledger : Ledger σ} {session : Session σ} (keeps : ledger.Keeps session)
    (finished : session.isOver = true) (attends : ledger.Attends session) : ledger.untold session = [] := by
  simp only [Session.isOver, Bool.and_eq_true, Bool.or_eq_true, List.isEmpty_iff, Bool.not_eq_true'] at finished
  obtain ⟨⟨done, forwarding⟩, events⟩ := finished
  suffices none : ledger.reports.drop ledger.heard = [] by simp [untold, forwarding, none]
  rcases events with events | unheard
  · have reported := keeps.reported
    rw [events, Session.reporting?, (isDone_iff.mp done).2] at reported
    exact List.map_eq_nil_iff.mp reported
  · rcases attends with heard | ⟨report, latest, ends⟩
    · cases heard.symm.trans unheard
    obtain ⟨front, told⟩ := List.getLast?_eq_some_iff.mp latest
    have whole : ledger.reports = front ++ report :: ledger.reports.drop ledger.heard := by
      rw [← List.singleton_append, ← List.append_assoc, ← told, Ledger.told, List.take_append_drop]
    exact keeps.endsLast whole ends

theorem Keeps.outcome_of_settled {ledger : Ledger σ} {session : Session σ} (keeps : ledger.Keeps session)
    {cause : Option Nat} {account : Account σ} (taken : (cause, account) ∈ ledger.taken.zip ledger.chronicle.accounts)
    (isRun : account.IsRun) (settled : account.IsSettled) :
    ∃ content : Content, content.isOutcome = true ∧
      ((cause, content) ∈ ledger.forwarded ∨ (cause, content) ∈ ledger.untold session) := by
  have single : ∃ report, account.reports = [report] ∧ report.event.EndsRun ∧ report.Calm := by
    unfold Account.IsSettled at settled
    rcases isRun with ⟨_, request⟩ | ⟨_, request⟩ <;> rw [request] at settled <;> exact settled
  obtain ⟨report, only, endsRun, _⟩ := single
  have reported : (cause, report.event) ∈ ledger.reports := by
    refine List.mem_append_right _ (List.mem_flatMap.mpr ⟨(cause, account), List.mem_reverse.mpr taken, ?_⟩)
    simp [only]
  obtain ⟨content, outcome⟩ := outcome_of_endsRun endsRun session.announcesEntry
  have said : (cause, content) ∈ Adapter.outcomes (tellings session.announcesEntry (cause, report.event)) := by
    rw [outcomes_tellings, outcome]
    exact List.mem_singleton_self _
  obtain ⟨inside, isOutcome⟩ := List.mem_filter.mp said
  refine ⟨content, isOutcome, List.mem_append.mp ?_⟩
  rw [keeps.forwarded_untold]
  exact List.mem_flatMap.mpr ⟨_, reported, inside⟩

end Ledger

theorem session_of_granted (host : Host σ) (server : Server σ) (number : Nat) (command : String) (arguments : Option Json)
    {other : Nat} {name : String} {body : Option Json} (steps : Stepping name)
    (member : .inl (granted other name body) ∈ (server.tasksFor host number command arguments).map Task.view) :
    server.sessions ≠ [] := by
  have asked := (orderly_tasksFor host server number command arguments false).asked member rfl
  obtain rfl : command = name := congrArg Prod.snd (Option.some.inj asked)
  intro none
  have empty : server.session.isSome = false := by simp [Server.session, none]
  rcases steps with rfl | rfl | rfl | rfl <;>
    simp [Server.tasksFor, Server.running, empty, Task.view, granted, refused] at member

/-- Behind the end of serving the loop has nothing left to do but to end the session, and not even that unless the input
had a fault. -/
structure Quits (isBroken : Bool) (views : List (Content ⊕ LoopDeed σ)) : Prop where
  ends : ∀ view ∈ views, view = .inr .stop ∨ view = .inr .awaitWorker
  rests : isBroken = false → views = []

def LeavesLast (isBroken : Bool) : List (Content ⊕ LoopDeed σ) → Prop
  | [] => True
  | .inr .leave :: rest => Quits isBroken rest
  | _ :: rest => LeavesLast isBroken rest

section
variable {isBroken : Bool} {views rest : List (Content ⊕ LoopDeed σ)}

theorem quits_nil : Quits (σ := σ) isBroken [] :=
  ⟨nofun, fun _ => rfl⟩

theorem Quits.suffix (quits : Quits isBroken views) (behind : rest <:+ views) : Quits isBroken rest where
  ends view member := quits.ends view (behind.subset member)
  rests sound := List.suffix_nil.mp (quits.rests sound ▸ behind)

theorem Quits.leavesLast (quits : Quits isBroken views) : LeavesLast isBroken views := by
  induction views with
  | nil => trivial
  | cons view rest ih =>
    have later := ih (quits.suffix (List.suffix_cons ..))
    rcases quits.ends view List.mem_cons_self with rfl | rfl <;> exact later

theorem Quits.owed (quits : Quits isBroken views) : owedBy views = [] := by
  rw [owedBy, List.filterMap_eq_nil_iff]
  intro view member
  rcases quits.ends view member with rfl | rfl <;> rfl

theorem Quits.handsOn (quits : Quits isBroken views) : ¬ HandsOn views := by
  rintro ⟨request, refusal, member⟩
  rcases quits.ends _ member with same | same <;> cases same

theorem LeavesLast.tail {view : Content ⊕ LoopDeed σ} (last : LeavesLast isBroken (view :: rest)) : LeavesLast isBroken rest := by
  unfold LeavesLast at last
  split at last
  · contradiction
  next same =>
    cases same
    exact last.leavesLast
  next same =>
    cases same
    exact last

theorem leavesLast_written {written : List (Content ⊕ LoopDeed σ)} (messages : ∀ view ∈ written, ∃ content, view = .inl content) :
    LeavesLast isBroken (written ++ rest) ↔ LeavesLast isBroken rest := by
  induction written with
  | nil => rfl
  | cons view more ih =>
    obtain ⟨content, rfl⟩ := messages view List.mem_cons_self
    exact ih fun other member => messages other (List.mem_cons_of_mem _ member)

theorem leavesLast_running (server : Server σ) (number : Nat) (command : String) (mode : RunMode) (body : Option Json) :
    LeavesLast isBroken ((server.running number command mode body).map Task.view) := by
  unfold Server.running
  split <;> trivial

theorem leavesLast_tasksFor (host : Host σ) (server : Server σ) (number : Nat) (command : String) (arguments : Option Json) :
    LeavesLast isBroken ((server.tasksFor host number command arguments).map Task.view) := by
  unfold Server.tasksFor
  split
  · trivial
  · unfold Server.launching
    split
    · trivial
    · split <;> trivial
  · trivial
  · split <;> trivial
  · trivial
  · trivial
  · trivial
  · trivial
  · split <;> trivial
  · exact leavesLast_running server _ _ _ _
  · exact leavesLast_running server _ _ _ _
  · exact leavesLast_running server _ _ _ _
  · exact leavesLast_running server _ _ _ _
  · exact quits_nil
  · exact quits_nil
  · trivial

end

theorem isServing_perform? {server later : Server σ} {deed : LoopDeed σ} {more : List (Task (LoopDeed σ))}
    (performed : server.perform? deed = some (more, later)) (goesOn : deed ≠ .leave) : later.isServing = server.isServing := by
  cases deed with
  | leave => exact absurd rfl goesOn
  | submit => obtain ⟨_, _, rfl⟩ | ⟨_, _, rfl⟩ := Server.perform?_submit performed <;> rfl
  | awaitWorker =>
    obtain ⟨_, _, rfl⟩ := Server.perform?_awaitWorker performed
    rfl
  | join =>
    obtain ⟨_, _, rfl⟩ := Server.perform?_join performed
    rfl
  | setBreakpoints | tellStack | adopt | listen | stop =>
    cases performed
    rfl

namespace History

/-- Behind the answer that grants a request, the client is told what became of the program because of the request. -/
def Follows (history : History σ) (place : Nat) : Prop :=
  ∃ before post behind, history.posts = before ++ post :: behind ∧ post.cause = some place ∧
    post.message.content.isOutcome = true ∧ ∃ answer ∈ before, answer.Grants history.asked place

/-- The request that was read last is about to be handed to a worker that takes none any more, since its program has
ended. -/
inductive ComesLate (history : History σ) : Nat → Prop where
  | refused {request refusal rest session former ledger older} (tasks : history.server.tasks = .own (.submit request refusal) :: rest)
      (sessions : history.server.sessions = session :: former) (ledgers : history.ledgers = ledger :: older)
      (closed : session.isOpen = false) (ended : ledger.HasEnded) : ComesLate history history.latest

/-- What a session may have left of a run that its worker was handed. Its program ended before the worker took the run
up. Or serving did not wait: never for the forwarder of a session that was replaced by another one, and for nobody if the
input had a fault. -/
inductive Leaves (isBroken : Bool) (place age : Nat) (session : Session σ) (ledger : Ledger σ) : Prop where
  | overtaken {run} (waits : (some place, run) ∈ ledger.waiting.zip session.requests) (ended : ledger.HasEnded)
  | untold {content} (unwaited : 0 < age ∨ isBroken = true) (outcome : content.isOutcome = true)
      (untold : (some place, content) ∈ ledger.untold session)
  | untaken {run} (unwaited : age = 0 ∧ isBroken = true) (waits : (some place, run) ∈ ledger.waiting.zip session.requests)
  | unsettled {account} (unwaited : age = 0 ∧ isBroken = true) (taken : (some place, account) ∈ ledger.taken.zip ledger.chronicle.accounts)
      (pending : ledger.chronicle.Pending account)

/-- What a session may have left of an inspection, likewise. A client whose inspection comes when the worker takes no
request any more is refused; of one that waits when the program ends nothing is said here, either way. -/
inductive LeavesUnanswered (isBroken : Bool) (key : Nat × String) (age : Nat) (session : Session σ) (ledger : Ledger σ) : Prop where
  | overtaken (waits : key ∈ session.requests.filterMap Request.asks?) (ended : ledger.HasEnded)
  | untold (unwaited : 0 < age ∨ isBroken = true) (untold : key ∈ (ledger.untold session).filterMap (·.2.answers?))
  | unreported (unwaited : age = 0 ∧ isBroken = true) (owed : key ∈ session.owed)

/-- What has become of the requests. A request that is still open, and a run without an outcome of its own, was left so
by the session that had it; `late` are the runs that came too late for any. -/
structure Settles (history : History σ) (late : Nat → Prop) : Prop where
  done : history.isBroken = false → ∀ session ∈ history.server.sessions, session.isDone = true
  answered : ∃ unsettled, (history.answered ++ unsettled).Perm history.questions ∧ ∀ key ∈ unsettled,
    Any (LeavesUnanswered history.isBroken key) history.server.sessions history.ledgers
  followed : ∀ post ∈ history.posts, ∀ place request, history.asked[place]? = some request → Stepping request.command →
    post.Grants history.asked place → history.Follows place ∨ place ∉ history.runs ∧ late place ∨
      Any (Leaves history.isBroken place) history.server.sessions history.ledgers

/-- A step that was granted is handed to a worker, or is about to be, or it came late. -/
structure Resumes (history : History σ) (late : Nat → Prop) : Prop where
  present : ∀ number command body, Stepping command →
    .inl (granted number command body) ∈ history.server.tasks.map Task.view → history.server.sessions ≠ []
  resumed : ∀ post ∈ history.posts, ∀ place request, history.asked[place]? = some request → Stepping request.command →
    post.Grants history.asked place → place ∈ history.runs ∨ late place ∨
      place = history.latest ∧ HandsOn (history.server.tasks.map Task.view) ∧ history.server.sessions ≠ []

variable [Interpreter σ]

theorem Happens.grants {host : Host σ} {history later : History σ} (happens : Happens host history later)
    (sound : history.Sound) {post : Post} (posted : post ∈ later.posts) {place : Nat} {request : Asked}
    (read : later.asked[place]? = some request) (steps : Stepping request.command) (grants : post.Grants later.asked place) :
    post ∈ history.posts ∨ place = history.latest ∧ later.latest = history.latest ∧
      HandsOn (later.server.tasks.map Task.view) ∧
      ∃ number body, .inl (granted number request.command body) ∈ history.server.tasks.map Task.view := by
  obtain ⟨cause, other, body, same, own, content⟩ := grants
  obtain rfl : other = request := Option.some.inj (same.symm.trans read)
  apply (happens.answers sound posted (congrArg Content.answers? content)).imp_right
  rintro (inspects | writes)
  · exact absurd inspects own
  obtain rfl : history.latest = place := Option.some.inj (writes.cause.symm.trans cause)
  obtain ⟨stage, sound⟩ := sound
  have orderly := sound.orderly
  rw [writes.views, content] at orderly ⊢
  refine ⟨rfl, congrArg (·.length - 1) writes.asked, ?_, other.number, body, List.mem_cons_self⟩
  cases orderly with
  | grants _ _ _ handsOn => exact handsOn steps

/-- What is about to be handed on is handed on, unless it comes late. -/
theorem Happens.handed_on {host : Host σ} {history later : History σ} (happens : Happens host history later)
    (sound : history.Sound) (heeds : history.Heeds) {request : Asked}
    (read : history.asked[history.latest]? = some request) (steps : Stepping request.command)
    (handsOn : HandsOn (history.server.tasks.map Task.view)) (present : history.server.sessions ≠ []) :
    history.latest ∈ later.runs ∨ history.ComesLate history.latest ∨
      later.latest = history.latest ∧ HandsOn (later.server.tasks.map Task.view) := by
  obtain ⟨stage, sound⟩ := sound
  have resting (free : history.server.tasks = []) : False := by
    rw [free] at handsOn
    obtain ⟨_, _, member⟩ := handsOn
    cases member
  cases happens with
  | reads ready | ends ready | breaks ready => exact (resting (isReady_iff.mp ready).1).elim
  | @loopWrites wire rest writes =>
    obtain ⟨request, refusal, member⟩ := handsOn
    refine .inr (.inr ⟨rfl, request, refusal, ?_⟩)
    rw [writes.views] at member
    rcases List.mem_append.mp member with said | kept
    · obtain ⟨_, _, same⟩ := List.mem_map.mp said
      cases same
    · exact kept
  | @loopDoes deed rest more after tasks performed =>
    have latest : (history.noteDeed deed).latest = history.latest := by
      rw [History.latest, (history.noteDeed_kept deed).1, History.latest]
    rw [tasks, List.map_cons] at handsOn
    rcases handsOn_cons handsOn with ⟨run, refusal, same⟩ | ⟨run, refusal, member⟩
    · cases same
      obtain ⟨stopping, steady, stops⟩ := heeds.steady
      have orderly := sound.orderly
      rw [tasks, List.map_cons] at steady orderly
      have isRun : run.isRun = true := by
        cases orderly with
        | runs => rfl
        | inspects asked asks =>
          obtain ⟨other, found, _, rfl⟩ := asked_latest asked
          cases found.symm.trans read
          cases run <;> simp [Request.asks?] at asks <;> simp [← asks.2, Stepping] at steps
      obtain ⟨opened, rfl, rfl⟩ | ⟨closed, rfl, rfl⟩ := Server.perform?_submit performed
      · left
        simp [noteDeed, opened, isRun]
      · right
        left
        obtain ⟨none, _⟩ | ⟨session, former, ledger, older, sessions, ledgers, keeps⟩ := sound.newest
        · exact absurd none present
        · have isOpen : session.isOpen = false := by simpa [Server.session, sessions] using closed
          have going : session.isStopping = false := by
            have still : history.server.isStopping = false := Bool.eq_false_iff.mpr fun stopped => by
              cases steady.1.symm.trans (stops stopped)
            simpa [Server.isStopping, Server.session, sessions] using still
          have stopsLast := heeds.last 0 session ledger (by rw [sessions]; rfl) (by rw [ledgers]; rfl)
          exact .refused tasks sessions ledgers isOpen
            (keeps.closed (heeds.begins ledger (ledgers ▸ List.mem_cons_self)) stopsLast isOpen going)
    · refine .inr (.inr ⟨latest, run, refusal, ?_⟩)
      rw [List.map_append]
      exact List.mem_append_right _ member
  | _ => exact .inr (.inr ⟨rfl, handsOn⟩)

theorem Happens.granting {host : Host σ} {history later : History σ} (happens : Happens host history later)
    (sound : history.Sound) {number : Nat} {command : String} {body : Option Json} (steps : Stepping command)
    (member : .inl (granted number command body) ∈ later.server.tasks.map Task.view) :
    .inl (granted number command body) ∈ history.server.tasks.map Task.view ∨ later.server.sessions ≠ [] := by
  obtain ⟨stage, sound⟩ := sound
  cases happens with
  | reads ready => exact .inr (session_of_granted _ _ _ _ _ steps member)
  | ends | breaks => simp [Task.view] at member
  | loopWrites writes =>
    left
    rw [writes.views]
    exact List.mem_append_right _ member
  | @loopDoes deed rest more after tasks performed =>
    left
    have orderly := sound.orderly
    rw [tasks] at orderly ⊢
    change Orderly _ _ _ (.inr deed :: rest.map Task.view) at orderly
    rw [List.map_append] at member
    refine List.mem_cons_of_mem _ ((List.mem_append.mp member).resolve_left fun made => ?_)
    obtain ⟨task, inside, view⟩ := List.mem_map.mp made
    cases orderly with
    | tells =>
      cases performed
      obtain rfl := List.mem_singleton.mp inside
      cases view
      simp [Stepping] at steps
    | runs => obtain ⟨_, rfl, _⟩ | ⟨_, rfl, _⟩ := Server.perform?_submit performed <;> cases inside
    | inspects =>
      obtain ⟨_, rfl, _⟩ | ⟨_, rfl, _⟩ := Server.perform?_submit performed
      · cases inside
      · obtain rfl := List.mem_singleton.mp inside
        cases view
    | sets | stops | adopts | listens | leaves =>
      cases performed
      cases inside
    | awaits =>
      obtain ⟨_, rfl, _⟩ := Server.perform?_awaitWorker performed
      cases inside
    | joins =>
      obtain ⟨_, rfl, _⟩ := Server.perform?_join performed
      cases inside
  | _ => exact .inl member

theorem Happens.resumes {host : Host σ} {history later : History σ} {late later' : Nat → Prop}
    (happens : Happens host history later) (sound : history.Sound) (warranted : history.Warranted) (heeds : history.Heeds)
    (resumes : history.Resumes late) (kept : ∀ place, late place → later' place)
    (comes : ∀ place, history.ComesLate place → later' place) : later.Resumes later' := by
  obtain ⟨posts, asked, runs⟩ := happens.grows
  have sessions (present : history.server.sessions ≠ []) : later.server.sessions ≠ [] := by
    have before := List.length_pos_iff.mpr present
    exact List.length_pos_iff.mp (Nat.lt_of_lt_of_le before happens.sessions_le)
  constructor
  case present =>
    intro number command body steps member
    rcases happens.granting sound steps member with before | arrived
    · exact sessions (resumes.present number command body steps before)
    · exact arrived
  case resumed =>
    intro post posted place request read steps grants
    rcases happens.grants sound posted read steps grants with old | ⟨latest, same, handsOn, number, body, granted⟩
    · have inside := warranted.read post old place grants.1
      have known : history.asked[place]? = some request := by
        rw [← read]
        obtain ⟨more, whole⟩ := asked
        rw [← whole, List.getElem?_append_left inside]
      have before : post.Grants history.asked place := by
        obtain ⟨cause, other, body, found, rest⟩ := grants
        cases found.symm.trans read
        exact ⟨cause, request, body, known, rest⟩
      rcases resumes.resumed post old place request known steps before with run | came | ⟨rfl, handsOn, present⟩
      · exact .inl (runs.subset run)
      · exact .inr (.inl (kept place came))
      · rcases happens.handed_on sound heeds known steps handsOn present with run | comesLate | ⟨same, handsOn⟩
        · exact .inl run
        · exact .inr (.inl (comes _ comesLate))
        · exact .inr (.inr ⟨same.symm, handsOn, sessions present⟩)
    · exact .inr (.inr ⟨latest.trans same.symm, handsOn, sessions (resumes.present number request.command body steps granted)⟩)

omit [Interpreter σ] in
theorem any_of_handed {history : History σ} {pair : Option Nat × Request} (handed : pair ∈ history.handed) :
    Any (fun _ session ledger => pair ∈ ledger.handed session) history.server.sessions history.ledgers := by
  obtain ⟨_, member, inside⟩ := List.mem_flatten.mp handed
  obtain ⟨age, found⟩ := List.mem_iff_getElem?.mp member
  rw [List.getElem?_zipWith] at found
  split at found
  next ledger session ledger? session? =>
    cases found
    exact ⟨age, session, ledger, session?, ledger?, inside⟩
  · cases found

structure Parts (history : History σ) : Prop where
  last : LeavesLast history.isBroken (history.server.tasks.map Task.view)
  quits : history.server.isServing = false → Quits history.isBroken (history.server.tasks.map Task.view)

omit [Interpreter σ] in
theorem parts_begin (attached : Option (Debuggee σ × Bool)) : (begin attached).Parts := by
  cases attached <;> exact ⟨trivial, nofun⟩

theorem Happens.parts {host : Host σ} {history later : History σ} (happens : Happens host history later)
    (parts : history.Parts) : later.Parts := by
  obtain ⟨last, quits⟩ := parts
  have serves (ready : history.isReady = true) (left : history.server.isServing = false) : False := by
    cases (isReady_iff.mp ready).2.symm.trans left
  cases happens with
  | reads ready => exact ⟨leavesLast_tasksFor .., fun left => (serves ready left).elim⟩
  | ends ready => exact ⟨quits_nil, fun left => (serves ready left).elim⟩
  | breaks ready =>
    refine ⟨⟨?_, nofun⟩, fun left => (serves ready left).elim⟩
    simp [Task.view]
  | loopWrites writes =>
    have views := writes.views
    constructor
    · rw [views, leavesLast_written] at last
      · exact last
      · intro view member
        obtain ⟨message, _, rfl⟩ := List.mem_map.mp member
        exact ⟨_, rfl⟩
    · exact fun left => (quits left).suffix (views ▸ List.suffix_append ..)
  | @loopDoes deed rest more after tasks performed =>
    have broken : (history.noteDeed deed).isBroken = history.isBroken := by
      cases deed with
      | submit =>
        unfold noteDeed
        dsimp only
        split <;> rfl
      | _ => rfl
    rw [tasks, List.map_cons] at last quits
    constructor
    · rw [broken, List.map_append, leavesLast_written]
      · exact last.tail
      · intro view member
        obtain ⟨task, inside, rfl⟩ := List.mem_map.mp member
        obtain ⟨content, rfl⟩ := written_of_perform? performed task inside
        exact ⟨content, rfl⟩
    · intro left
      rw [broken]
      by_cases leaves : deed = .leave
      · subst leaves
        cases performed
        exact last
      · have before := quits ((isServing_perform? performed leaves).symm.trans left)
        have none : more = [] := by
          rcases before.ends _ List.mem_cons_self with same | same <;> cases same
          · cases performed
            rfl
          · exact (Server.perform?_awaitWorker performed).2.1
        rw [none]
        exact before.suffix (List.suffix_cons ..)
  | _ => exact ⟨last, quits⟩

/-- When serving is over, the workers are done and their forwarders have told everything, but for those that it did not
wait for. -/
theorem Sound.returned {history : History σ} (sound : history.Sound) (parts : history.Parts)
    (returned : history.server.isServing = false) :
    Each (fun age session ledger => ledger.Keeps session ∧ (session.isDone = true ∨ age = 0 ∧ history.isBroken = true) ∧
      (ledger.untold session = [] ∨ 0 < age ∨ history.isBroken = true)) history.server.sessions history.ledgers := by
  obtain ⟨stage, sound⟩ := sound
  have orderly := sound.orderly
  have serving := sound.serving
  intro age session ledger session? ledger?
  obtain ⟨keeps, fits⟩ := sound.held age session ledger session? ledger?
  refine ⟨keeps, ?_⟩
  cases age with
  | succ age => exact ⟨.inl fits.1, .inr (.inl (Nat.succ_pos age))⟩
  | zero =>
    cases broken : history.isBroken with
    | true => exact ⟨.inr ⟨rfl, rfl⟩, .inr (.inr rfl)⟩
    | false =>
      rw [(parts.quits returned).rests broken, broken] at orderly
      rw [returned] at serving
      have phase : stage.phase = .finished := by
        cases orderly with
        | rests => cases serving
        | left finished => exact finished rfl
      rw [phase] at fits
      have finished := fits.1
      simp only [Session.isOver, Bool.and_eq_true] at finished
      exact ⟨.inl finished.1.1, .inl (keeps.untold_of_isOver fits.1 fits.2)⟩

omit [Interpreter σ] in
/-- What came of a run that a worker took up is told behind the answer that granted it. -/
theorem Warranted.follows {history : History σ} (warranted : history.Warranted) {age : Nat} {ledger : Ledger σ}
    (ledger? : history.ledgers[age]? = some ledger) {place : Nat} {content : Content}
    (forwarded : (some place, content) ∈ ledger.forwarded) (outcome : content.isOutcome = true) {post : Post}
    (grants : post.Grants history.asked place) : history.Follows place := by
  have delivered := warranted.delivered (List.mem_flatMap.mpr ⟨ledger, List.mem_of_getElem? ledger?, forwarded⟩)
  obtain ⟨told, member, entry⟩ := List.mem_map.mp delivered
  obtain ⟨cause, same⟩ := Prod.mk.inj entry
  obtain ⟨before, behind, split⟩ := List.append_of_mem member
  have event : told.message.content.IsEvent := by
    rw [same]
    cases content with
    | event => trivial
    | _ => cases outcome
  refine ⟨before, told, behind, split, cause, same ▸ outcome, ?_⟩
  rcases warranted.allowed before told behind split event place cause with allowed | ⟨other, found, inspects⟩
  · exact allowed
  · obtain ⟨_, request, body, read, own, _⟩ := grants
    cases found.symm.trans read
    exact absurd inspects own

theorem Heeds.leavesOut {history : History σ} (heeds : history.Heeds) {age : Nat} {session : Session σ} {ledger : Ledger σ}
    (session? : history.server.sessions[age]? = some session) (ledger? : history.ledgers[age]? = some ledger)
    (keeps : ledger.Keeps session) (done : session.isDone = true) {cause : Option Nat} {request : Request}
    (waits : (cause, request) ∈ ledger.waiting.zip session.requests) (goesOn : request ≠ .stop) : ledger.HasEnded :=
  keeps.leavesOut (heeds.begins ledger (List.mem_of_getElem? ledger?)) (heeds.last age session ledger session? ledger?)
    (isDone_iff.mp done).1 waits goesOn

theorem Heeds.leavesUnanswered {history : History σ} (heeds : history.Heeds) {age : Nat} {session : Session σ} {ledger : Ledger σ}
    (session? : history.server.sessions[age]? = some session) (ledger? : history.ledgers[age]? = some ledger)
    (keeps : ledger.Keeps session) (done : session.isDone = true ∨ age = 0 ∧ history.isBroken = true)
    (told : ledger.untold session = [] ∨ 0 < age ∨ history.isBroken = true) {key : Nat × String} (owed : key ∈ session.owed) :
    LeavesUnanswered history.isBroken key age session ledger := by
  rcases done with done | unwaited
  · rcases keeps.owed_of_isDone done owed with waits | later
    · obtain ⟨request, member, asks⟩ := List.mem_filterMap.mp waits
      rw [← List.map_snd_zip (Nat.le_of_eq keeps.waiting.symm)] at member
      obtain ⟨⟨cause, _⟩, paired, rfl⟩ := List.mem_map.mp member
      refine .overtaken waits (heeds.leavesOut session? ledger? keeps done paired ?_)
      rintro rfl
      cases asks
    · rcases told with none | unwaited
      · simp [none] at later
      · exact .untold unwaited later
  · exact .unreported unwaited owed

/-- Of a run that a worker was handed the outcome is told, or the session has left it. -/
theorem Heeds.leaves {history : History σ} (heeds : history.Heeds) {age : Nat} {session : Session σ} {ledger : Ledger σ}
    (session? : history.server.sessions[age]? = some session) (ledger? : history.ledgers[age]? = some ledger)
    (keeps : ledger.Keeps session) (done : session.isDone = true ∨ age = 0 ∧ history.isBroken = true)
    (told : ledger.untold session = [] ∨ 0 < age ∨ history.isBroken = true) {place : Nat} {run : Request} (isRun : run.isRun = true)
    (handed : (some place, run) ∈ ledger.handed session) :
    (∃ content : Content, content.isOutcome = true ∧ (some place, content) ∈ ledger.forwarded) ∨
      Leaves history.isBroken place age session ledger := by
  rcases List.mem_append.mp handed with waits | taken
  · have waits := List.mem_reverse.mp waits
    right
    rcases done with done | unwaited
    · exact .overtaken waits (heeds.leavesOut session? ledger? keeps done waits (by rintro rfl; cases isRun))
    · exact .untaken unwaited waits
  · rw [List.zip_map_right] at taken
    obtain ⟨⟨_, account⟩, inside, same⟩ := List.mem_map.mp taken
    obtain ⟨rfl, rfl⟩ := Prod.mk.inj same
    rcases keeps.consistent.settled_or_pending account (List.of_mem_zip inside).2 with settled | pending
    · obtain ⟨content, outcome, forwarded | later⟩ := keeps.outcome_of_settled inside (isRun_of_request isRun) settled
      · exact .inl ⟨content, outcome, forwarded⟩
      · rcases told with none | unwaited
        · simp [none] at later
        · exact .inr (.untold unwaited outcome later)
    · rcases done with done | unwaited
      · obtain ⟨_, _, busy⟩ := pending
        rw [keeps.worker] at busy
        simp [Worker.isRunning, Worker.hasEnded_iff.mp (isDone_iff.mp done).1] at busy
      · exact .inr (.unsettled unwaited inside pending)

theorem resumes_moved (host : Host σ) (attached : Option (Debuggee σ × Bool)) (occurrences : List Occurrence) :
    ((begin attached).moved host occurrences).Resumes fun place =>
      ∃ early, early <+: occurrences ∧ ((begin attached).moved host early).ComesLate place := by
  induction occurrences using List.reverseRecOn with
  | nil =>
    constructor
    case present => cases attached <;> simp [moved, begin, Server.fresh, Server.attach, Task.view]
    case resumed => simp [moved, begin]
  | append_singleton earlier occurrence ih =>
    have moved : (begin attached).moved host (earlier ++ [occurrence]) =
        ((begin attached).moved host earlier).move host occurrence := List.foldl_concat ..
    obtain ⟨sound, _, warranted, heeds⟩ := warranted_induction (motive := Heeds) (heeds_begin attached)
      (fun _ _ sound _ _ (happens : Happens host _ _) heeds => happens.heeds sound heeds) earlier
    obtain ⟨_, soundAt⟩ := id sound
    rw [moved]
    refine (happens_move host soundAt.paired occurrence).resumes sound warranted heeds ih ?_ ?_
    · rintro place ⟨early, start, comes⟩
      exact ⟨early, start.trans (List.prefix_append ..), comes⟩
    · exact fun place comes => ⟨earlier, List.prefix_append .., comes⟩

/-- When serving is over, whichever way, each request has its one answer and each step that was granted its own pause or
end, but for a step that came too late for its program, and for what a session has left. -/
theorem requests_settled (host : Host σ) (attached : Option (Debuggee σ × Bool)) (occurrences : List Occurrence)
    (returned : ((begin attached).moved host occurrences).server.isServing = false) :
    ((begin attached).moved host occurrences).Settles fun place =>
      ∃ early, early <+: occurrences ∧ ((begin attached).moved host early).ComesLate place := by
  have conserved := answers_conserved host attached occurrences
  have resumes := resumes_moved host attached occurrences
  obtain ⟨sound, _, warranted, heeds, parts⟩ := warranted_induction
    (motive := fun history => history.Heeds ∧ history.Parts) ⟨heeds_begin attached, parts_begin attached⟩
    (fun _ _ sound _ _ (happens : Happens host _ _) ⟨heeds, parts⟩ => ⟨happens.heeds sound heeds, happens.parts parts⟩)
    occurrences
  generalize (begin attached).moved host occurrences = history at *
  have each := sound.returned parts returned
  obtain ⟨stage, sound⟩ := sound
  constructor
  case done =>
    intro unbroken session member
    obtain ⟨age, session?⟩ := List.mem_iff_getElem?.mp member
    obtain ⟨ledger, ledger?, _⟩ := sound.ledger session?
    obtain ⟨_, done | ⟨_, broken⟩, _⟩ := each age session ledger session? ledger?
    · exact done
    · cases unbroken.symm.trans broken
  case answered =>
    refine ⟨history.server.sessions.flatMap (·.owed), ?_, fun key left => ?_⟩
    · simpa [(parts.quits returned).owed] using conserved
    obtain ⟨session, member, owed⟩ := List.mem_flatMap.mp left
    obtain ⟨age, session?⟩ := List.mem_iff_getElem?.mp member
    obtain ⟨ledger, ledger?, _⟩ := sound.ledger session?
    obtain ⟨keeps, done, told⟩ := each age session ledger session? ledger?
    exact ⟨age, session, ledger, session?, ledger?, heeds.leavesUnanswered session? ledger? keeps done told owed⟩
  case followed =>
    intro post posted place request read steps grants
    -- A step that no worker was handed came late for the one that it was for.
    by_cases begun : place ∈ history.runs
    · obtain ⟨run, handed, isRun⟩ := heeds.begun place begun
      obtain ⟨age, session, ledger, session?, ledger?, handed⟩ := any_of_handed handed
      obtain ⟨keeps, done, told⟩ := each age session ledger session? ledger?
      rcases heeds.leaves session? ledger? keeps done told isRun handed with ⟨content, outcome, forwarded⟩ | leaves
      · exact .inl (warranted.follows ledger? forwarded outcome grants)
      · exact .inr (.inr ⟨age, session, ledger, session?, ledger?, leaves⟩)
    · rcases resumes.resumed post posted place request read steps grants with run | late | ⟨_, handsOn, _⟩
      · exact absurd run begun
      · exact .inr (.inl ⟨begun, late⟩)
      · exact absurd handsOn (parts.quits returned).handsOn

def valueArguments : Option Json :=
  some (.obj [("expression", .str "z")])

/-- A client that asks for a value while its program runs and leaves when both have been told of. -/
def asking : List Occurrence :=
  Occurrence.rounds 8 ++ [.asks 1 "next" none] ++ Occurrence.rounds 3 ++
    [.asks 2 "evaluate" valueArguments] ++ Occurrence.rounds 20 ++
    [.asks 3 "disconnect" none] ++ Occurrence.rounds 14

def attachedValue : Option (Debuggee Scripted × Bool) :=
  let rules : List Rule := [⟨"Filter(", .said "character(0)\nBrowse[1]> " ""⟩, ⟨"eval(", .said "[1] 5\nBrowse[1]> " ""⟩]
  some (.start "x\ny" ⟨rules, [.said "Browse[1]> " "", .said "Browse[1]> " ""], 0⟩, true)

theorem asking_settled :
    ((begin attachedValue).moved barrenHost asking).server.isServing = false ∧
      ((begin attachedValue).moved barrenHost asking).isBroken = false ∧
      ((begin attachedValue).moved barrenHost asking).runs = [0] ∧
      ((begin attachedValue).moved barrenHost asking).answered = [(1, "next"), (2, "evaluate"), (3, "disconnect")] ∧
      ((begin attachedValue).moved barrenHost asking).Settles fun place =>
        ∃ early, early <+: asking ∧ ((begin attachedValue).moved barrenHost early).ComesLate place := by
  have facts : ((begin attachedValue).moved barrenHost asking).server.isServing = false ∧
      ((begin attachedValue).moved barrenHost asking).isBroken = false ∧
      ((begin attachedValue).moved barrenHost asking).runs = [0] ∧
      ((begin attachedValue).moved barrenHost asking).answered = [(1, "next"), (2, "evaluate"), (3, "disconnect")] := by
    decide +kernel
  obtain ⟨returned, sound, begun, answered⟩ := facts
  exact ⟨returned, sound, begun, answered, requests_settled barrenHost attachedValue asking returned⟩

/-- A program whose interpreter does not answer. -/
def attachedStall : Option (Debuggee Scripted × Bool) :=
  some (.start "x" ⟨[], [.pending], 0⟩, true)

/-- A client that lets the program run, asks for one more thing while a step is held up, and leaves. -/
def hasty (command : String) (arguments : Option Json) : List Occurrence :=
  Occurrence.rounds 8 ++ [.asks 1 "continue" none] ++ Occurrence.rounds 8 ++ [.asks 2 command arguments] ++
    Occurrence.rounds 4 ++ [.asks 3 "disconnect" none] ++ Occurrence.rounds 14

/-- A client that asks for a step of a program that has ended. -/
def tardy : List Occurrence :=
  Occurrence.rounds 8 ++ [.asks 1 "continue" none] ++ Occurrence.rounds 14 ++ [.asks 2 "next" none] ++ Occurrence.rounds 4 ++
    [.asks 3 "disconnect" none] ++ Occurrence.rounds 14

/-- A client that asks for another step and for a value while a step is held up, and whose input then has a fault. -/
def garbled : List Occurrence :=
  Occurrence.rounds 8 ++ [.asks 1 "continue" none] ++ Occurrence.rounds 8 ++ [.asks 2 "next" none] ++ Occurrence.rounds 4 ++
    [.asks 3 "evaluate" valueArguments, .step .loop, .fault, .step .loop]

/-- All threads but the forwarders take steps in turn. -/
def unforwarded (count : Nat) : List Occurrence :=
  (List.replicate count [.step .loop, .step .worker]).flatten

/-- A client that asks for a value and lets the program run, and launches another one before the forwarder tells of it. -/
def restarting : List Occurrence :=
  Occurrence.rounds 8 ++ [.asks 1 "evaluate" valueArguments] ++ unforwarded 4 ++ [.asks 2 "continue" none] ++ unforwarded 12 ++
    [.asks 3 "launch" quietArguments] ++ unforwarded 8 ++ Occurrence.rounds 8 ++ [.asks 4 "disconnect" none] ++
    Occurrence.rounds 14

/-- The same client, if its input has a fault then. -/
def abandoned : List Occurrence :=
  Occurrence.rounds 8 ++ [.asks 1 "evaluate" valueArguments] ++ unforwarded 4 ++ [.asks 2 "continue" none] ++ unforwarded 12 ++
    [.fault, .step .loop]

/-- Serving is over: the requests that were read, those that were answered, and what the client was told in turn, a
request that was granted by its command and an outcome by its name. -/
def EndsWith (history : History σ) (questions answered : List (Nat × String)) (told : List String) : Prop :=
  history.server.isServing = false ∧ history.questions = questions ∧ history.answered = answered ∧
    history.posts.filterMap (·.message.content.headline?) = told

instance (history : History σ) (questions answered : List (Nat × String)) (told : List String) :
    Decidable (history.EndsWith questions answered told) :=
  inferInstanceAs (Decidable (_ ∧ _))

/-- A second step is granted while the first one is held up, or behind the end of the program, and one end is told of for
both. Behind a fault of the input nobody waits for the worker or for its forwarder, and nobody waits for the forwarder of a
session that was replaced. -/
theorem steps_unfollowed :
    ((begin attachedStall).moved barrenHost (hasty "next" none)).EndsWith
        [(1, "continue"), (2, "next"), (3, "disconnect")] [(1, "continue"), (2, "next"), (3, "disconnect")]
        ["stopped", "continue", "next", "terminated", "disconnect"] ∧
      ((begin attachedValue).moved barrenHost tardy).EndsWith
        [(1, "continue"), (2, "next"), (3, "disconnect")] [(1, "continue"), (2, "next"), (3, "disconnect")]
        ["stopped", "continue", "terminated", "next", "disconnect"] ∧
      ((begin attachedStall).moved barrenHost garbled).EndsWith
        [(1, "continue"), (2, "next"), (3, "evaluate")] [(1, "continue"), (2, "next")] ["stopped", "continue", "next"] ∧
      ((begin attachedValue).moved promptingHost restarting).EndsWith
        [(1, "evaluate"), (2, "continue"), (3, "launch"), (4, "disconnect")] [(2, "continue"), (3, "launch"), (4, "disconnect")]
        ["stopped", "continue", "launch", "disconnect"] ∧
      ((begin attachedValue).moved barrenHost abandoned).EndsWith
        [(1, "evaluate"), (2, "continue")] [(2, "continue")] ["stopped", "continue"] := by
  decide +kernel

/-- A value that is asked for while a step is held up is not answered if the step ends with the program. -/
theorem waitingValue_unanswered : ((begin attachedStall).moved barrenHost (hasty "evaluate" valueArguments)).EndsWith
    [(1, "continue"), (2, "evaluate"), (3, "disconnect")] [(1, "continue"), (3, "disconnect")]
    ["stopped", "continue", "terminated", "disconnect"] := by
  decide +kernel

end History
end Adapter
end RStepper
