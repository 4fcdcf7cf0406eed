import Mathlib.Algebra.Ring.Nat
import RStepper.Proofs.RequestLoop

/-! No request is lost. Each one that was read is answered, or its answer is in the hands of one of the threads,
or it waits for the worker: and only one of these. -/

namespace RStepper

def Event.answers? : Event → Option (Nat × String)
  | .evaluated id _ => some (id, "evaluate")
  | .variables id _ => some (id, "variables")
  | .stopped _ | .terminated | .failed _ => none

def Worker.withheld {σ : Type} (worker : Worker σ) : List Event :=
  match worker.activity with
  | .stalled withheld => withheld
  | .idle | .running _ | .ended => []

namespace Adapter
variable {σ : Type}

/-- The request that a message answers. -/
def Content.answers? : Content → Option (Nat × String)
  | .response number _ command _ _ => some (number, command)
  | .request .. | .event .. => none

/-- The request that is still to be answered by a deed, or to be handed on. -/
def LoopDeed.owes? : LoopDeed σ → Option (Nat × String)
  | .tellStack number command => some (number, command)
  | .submit request _ => request.asks?
  | _ => none

def owedBy (views : List (Content ⊕ LoopDeed σ)) : List (Nat × String) :=
  views.filterMap (Sum.elim Content.answers? LoopDeed.owes?)

def Session.owed (session : Session σ) : List (Nat × String) :=
  session.requests.filterMap Request.asks? ++ session.worker.withheld.filterMap Event.answers? ++
    session.reporting?.filterMap Event.answers? ++ session.events.filterMap Event.answers? ++
    (Task.contents session.forwarding).filterMap Content.answers?

namespace History

def questions (history : History σ) : List (Nat × String) :=
  history.asked.map fun asked => (asked.number, asked.command)

def answered (history : History σ) : List (Nat × String) :=
  history.posts.filterMap (·.message.content.answers?)

/-- Each request is answered, or its answer is with the loop, or with a session. -/
def Balanced (history : History σ) : Prop :=
  ∀ key, history.answered.count key + (owedBy (history.server.tasks.map Task.view)).count key +
    (history.server.sessions.map (·.owed.count key)).sum = history.questions.count key

end History

theorem answers?_terminated : Event.answers? .terminated = none := rfl

theorem answers?_endReport (stopping : Bool) (failure : Failure) : (Worker.endReport stopping failure).answers? = none := by
  unfold Worker.endReport
  split <;> rfl

theorem answers?_contents (announcesEntry : Bool) (event : Event) :
    (Task.contents (forward announcesEntry event)).filterMap Content.answers? = event.answers?.toList := by
  cases event with
  | stopped stop =>
    simp only [forward, Task.contents_own]
    split <;> rfl
  | terminated | failed => rfl
  | evaluated id answer => cases answer <;> rfl
  | _ id answer => cases answer <;> rfl

/-- A request is refused by its own number and command, and only if it asks for an answer. -/
def LoopDeed.IsRegular : LoopDeed σ → Prop
  | .submit request refusal => refusal.bind Content.answers? = request.asks?
  | _ => True

theorem Orderly.regular {request : Option (Nat × String)} {isBroken : Bool} {stage : Stage} {deed : LoopDeed σ}
    {rest : List (Content ⊕ LoopDeed σ)} (orderly : Orderly request isBroken stage (.inr deed :: rest)) : deed.IsRegular := by
  cases orderly with
  | inspects _ asks => exact asks.symm
  | _ => trivial

theorem owedBy_cons (view : Content ⊕ LoopDeed σ) (rest : List (Content ⊕ LoopDeed σ)) :
    owedBy (view :: rest) = (view.elim Content.answers? LoopDeed.owes?).toList ++ owedBy rest := by
  rw [owedBy, List.filterMap_cons]
  cases view.elim Content.answers? LoopDeed.owes? <;> rfl

theorem owedBy_append (first second : List (Content ⊕ LoopDeed σ)) :
    owedBy (first ++ second) = owedBy first ++ owedBy second :=
  List.filterMap_append

/-- What the loop owes is the request that it is at, until this is answered or handed on. -/
theorem Orderly.owed {request : Option (Nat × String)} {isBroken : Bool} {stage : Stage} {views : List (Content ⊕ LoopDeed σ)}
    (orderly : Orderly request isBroken stage views) : owedBy views = if stage.owed then request.toList else [] := by
  induction orderly with
  | rests | left => rfl
  | grants asked _ _ _ _ ih | refuses asked _ _ ih | tells asked _ ih =>
    rw [owedBy_cons, ih, asked]
    rfl
  | inspects asked asks _ ih =>
    rw [owedBy_cons, ih, asked]
    simp [LoopDeed.owes?, asks]
  | greets _ ih | sets _ ih | runs _ ih | stops _ ih | awaits _ ih | adopts _ ih | listens _ ih | joins _ ih | leaves _ _ ih =>
    rw [owedBy_cons, ih]
    rfl

theorem Orderly.asked {request : Option (Nat × String)} {isBroken : Bool} {stage : Stage} {views : List (Content ⊕ LoopDeed σ)}
    (orderly : Orderly request isBroken stage views) {content : Content} {key : Nat × String} (member : .inl content ∈ views)
    (answers : content.answers? = some key) : request = some key := by
  have owed : key ∈ owedBy views := List.mem_filterMap.mpr ⟨_, member, answers⟩
  rw [orderly.owed] at owed
  split at owed
  · exact Option.mem_toList.mp owed
  · cases owed

variable [Interpreter σ]

omit [Interpreter σ] in
theorem answers_answer {α : Type} {report : Except String α → Event} {key : Nat × String} (stopping : Bool)
    (outcome : Except Failure α × Debuggee σ) (answers : ∀ value, (report value).answers? = some key) :
    let answered := Worker.answer stopping report outcome
    answered.2.withheld.filterMap Event.answers? ++ answered.1.filterMap Event.answers? = [key] := by
  have cases := Worker.answer_answers stopping report outcome
  generalize Worker.answer stopping report outcome = answered at cases ⊢
  cases cases with
  | tells | regrets => simp [Worker.withheld, answers]
  | fails => simp [Worker.withheld, answers, answers?_endReport]
  | stalls => simp [Worker.withheld, answers, answers?_terminated]

theorem answers_take (stopping : Bool) (breakpoints : Breakpoints) (request : Request) (debuggee : Debuggee σ) :
    let turn := Worker.take stopping breakpoints request debuggee
    turn.worker.withheld.filterMap Event.answers? ++ turn.events.filterMap Event.answers? = request.asks?.toList := by
  cases request with
  | run | runTo | stop => rfl
  | evaluate id expression => exact answers_answer stopping _ fun _ => rfl
  | _ id => exact answers_answer stopping _ fun _ => rfl

theorem answers_step (stopping : Bool) (run : Run) (breakpoints : Breakpoints) (debuggee : Debuggee σ) :
    let turn := Worker.step stopping run breakpoints debuggee
    turn.worker.withheld.filterMap Event.answers? ++ turn.events.filterMap Event.answers? = [] := by
  have turns := Worker.step_turns stopping run breakpoints debuggee
  generalize Worker.step stopping run breakpoints debuggee = turn at turns ⊢
  generalize Worker.leg run breakpoints debuggee = ended at turns
  cases turns with
  | goesOn | arrives | interrupts | finishes => rfl
  | fails => simp [Worker.withheld, answers?_endReport]
  | stalls => rfl

omit [Interpreter σ] in
theorem owed_took {session : Session σ} {deed : WorkerDeed} {rest : List (Task WorkerDeed)} (key : Nat × String)
    (tasks : session.tasks = .own deed :: rest) :
    (Session.took deed { session with tasks := rest }).owed.count key = session.owed.count key := by
  cases deed with
  | close => simp only [Session.took, Session.owed, Session.reporting?, tasks, Task.deeds_own, List.filterMap_cons,
      WorkerDeed.report?]
  | report event =>
    cases answers : event.answers? <;>
      simp only [Session.took, Session.owed, Session.reporting?, tasks, Task.deeds_own, WorkerDeed.report?,
        List.filterMap_append, List.filterMap_cons, List.filterMap_nil, answers, List.count_append, List.append_nil,
        List.count_cons, List.count_nil]
    omega

omit [Interpreter σ] in
theorem owed_behind {session : Session σ} {turn : Turn σ} {requests : List Request} (key : Nat × String) (free : session.tasks = [])
    (turned : turn.worker.withheld.filterMap Event.answers? ++ turn.events.filterMap Event.answers? ++
      requests.filterMap Request.asks? =
        session.worker.withheld.filterMap Event.answers? ++ session.requests.filterMap Request.asks?) :
    ({ session with requests }.behind turn).owed.count key = session.owed.count key := by
  have counts := congrArg (List.count key) turned
  have silent : session.reporting? = [] := by rw [Session.reporting?, free]; rfl
  simp only [Session.owed, Ledger.reporting?_behind, silent, List.count_append, List.filterMap_nil, List.count_nil] at counts ⊢
  simp only [Session.behind]
  omega

theorem owed_work? {session later : Session σ} {breakpoints left : Breakpoints} (key : Nat × String) (free : session.tasks = [])
    (worked : session.work? breakpoints = some (later, left)) : later.owed.count key = session.owed.count key := by
  cases Session.work?_cases worked with
  | leg activity =>
    refine owed_behind key free ?_
    rw [answers_step, List.nil_append]
    simp [Worker.withheld, activity]
  | @takes request rest activity requests =>
    refine owed_behind key free ?_
    rw [answers_take, requests]
    cases asks : request.asks? <;> simp [Worker.withheld, activity, asks]
  | releases activity =>
    refine owed_behind key free ?_
    simp [Worker.withheld, Worker.release, activity]

omit [Interpreter σ] in
theorem owed_start (debuggee : Debuggee σ) (announcesEntry showsOutput : Bool) :
    (Session.start debuggee announcesEntry showsOutput).owed = [] := by
  unfold Session.start Worker.start
  cases debuggee.stack.hasNext <;> rfl

omit [Interpreter σ] in
theorem sum_set {α : Type} {items : List α} {index : Nat} {item : α} (weight : α → Nat) (other : α) (item? : items[index]? = some item) :
    ((items.set index other).map weight).sum + weight item = (items.map weight).sum + weight other := by
  induction items generalizing index with
  | nil => simp at item?
  | cons first rest ih =>
    cases index with
    | zero =>
      cases item?
      simp only [List.set_cons_zero, List.map_cons, List.sum_cons]
      omega
    | succ index =>
      have rest := ih item?
      simp only [List.set_cons_succ, List.map_cons, List.sum_cons]
      omega

omit [Interpreter σ] in
theorem sum_set_same {α : Type} {items : List α} {index : Nat} {item : α} (weight : α → Nat) {other : α}
    (item? : items[index]? = some item) (same : weight other = weight item) :
    ((items.set index other).map weight).sum = (items.map weight).sum := by
  have sum := sum_set weight other item?
  omega

omit [Interpreter σ] in
theorem owed_hand (session : Session σ) (request : Request) (key : Nat × String) :
    ({ session with requests := session.requests ++ [request] } : Session σ).owed.count key =
      session.owed.count key + request.asks?.toList.count key := by
  have handed : (session.requests ++ [request]).filterMap Request.asks? =
      session.requests.filterMap Request.asks? ++ request.asks?.toList := by
    cases asks : request.asks? <;> simp [asks]
  simp only [Session.owed, handed, Session.reporting?, List.count_append]
  omega

omit [Interpreter σ] in
theorem owed_mapSession {server : Server σ} {change : Session σ → Session σ} (key : Nat × String) (more : Nat)
    (changed : ∀ session, (change session).owed.count key = session.owed.count key + more)
    (present : more = 0 ∨ server.sessions ≠ []) :
    ((server.mapSession change).sessions.map (·.owed.count key)).sum = more + (server.sessions.map (·.owed.count key)).sum := by
  unfold Server.mapSession
  cases sessions : server.sessions with
  | nil => simpa using (present.resolve_right (absurd sessions)).symm
  | cons session former =>
    simp only [List.modifyHead_cons, List.map_cons, List.sum_cons, changed]
    omega

omit [Interpreter σ] in
theorem owed_perform? {server later : Server σ} {deed : LoopDeed σ} {more : List (Task (LoopDeed σ))} (key : Nat × String)
    (regular : deed.IsRegular) (performed : server.perform? deed = some (more, later)) :
    (owedBy (more.map Task.view)).count key + (later.sessions.map (·.owed.count key)).sum =
      deed.owes?.toList.count key + (server.sessions.map (·.owed.count key)).sum := by
  cases deed with
  | submit request refusal =>
    obtain ⟨opened, rfl, rfl⟩ | ⟨_, rfl, rfl⟩ := Server.perform?_submit performed
    case inl =>
      have present : server.sessions ≠ [] := by
        intro none
        simp [Server.session, none] at opened
      rw [owed_mapSession key (request.asks?.toList.count key) (fun session => ?_) (.inr present)]
      · exact Nat.zero_add _
      · exact owed_hand session request key
    case inr =>
      change refusal.bind Content.answers? = request.asks? at regular
      rw [LoopDeed.owes?, ← regular]
      cases refusal with
      | none => rfl
      | some content => cases answers : content.answers? <;> simp [owedBy, Task.view, answers]
  | tellStack =>
    cases performed
    rfl
  | adopt debuggee stopsOnEntry showsOutput script =>
    cases performed
    simp [owed_start, owedBy, LoopDeed.owes?]
  | listen =>
    cases performed
    rw [owed_mapSession key 0 ?_ (.inl rfl)]
    · exact congrArg _ (Nat.zero_add _)
    · exact fun _ => rfl
  | stop =>
    cases performed
    rw [owed_mapSession key 0 ?_ (.inl rfl)]
    · exact congrArg _ (Nat.zero_add _)
    · exact fun session => owed_hand session .stop key
  | setBreakpoints | leave =>
    cases performed
    rfl
  | awaitWorker =>
    obtain ⟨_, rfl, rfl⟩ := Server.perform?_awaitWorker performed
    rfl
  | join =>
    obtain ⟨_, rfl, rfl⟩ := Server.perform?_join performed
    rfl

namespace History

omit [Interpreter σ] in
theorem answered_post (history : History σ) (messages : List Message) (cause : Option Nat) :
    (history.post messages cause).answered = history.answered ++ messages.filterMap (·.content.answers?) := by
  simp [answered, post, List.filterMap_map]

omit [Interpreter σ] in
theorem owedBy_written (messages : List Message) (rest : List (Content ⊕ LoopDeed σ)) :
    owedBy ((messages.map fun message => .inl message.content) ++ rest) =
      messages.filterMap (·.content.answers?) ++ owedBy rest := by
  simp [owedBy, List.filterMap_map, Function.comp_def]

theorem Balanced.loopDoes {history : History σ} {stage : Stage} {deed : LoopDeed σ} {rest more : List (Task (LoopDeed σ))}
    {later : Server σ} (balanced : history.Balanced) (sound : history.SoundAt stage)
    (tasks : history.server.tasks = .own deed :: rest) (performed : history.server.perform? deed = some (more, later)) :
    Balanced ({ history.noteDeed deed with server := { later with tasks := more ++ rest } } : History σ) := by
  have orderly := sound.orderly
  rw [tasks] at orderly
  intro key
  have before := balanced key
  have load := owed_perform? key orderly.regular performed
  obtain ⟨asked, posts⟩ := noteDeed_kept history deed
  rw [tasks, List.map_cons, Task.view, owedBy_cons, List.count_append, Sum.elim_inr] at before
  unfold answered questions at before ⊢
  simp only [asked, posts, List.map_append, owedBy_append, List.count_append]
  omega

theorem Happens.balanced {host : Host σ} {history later : History σ} (happens : Happens host history later)
    (sound : history.Sound) (balanced : history.Balanced) : later.Balanced := by
  obtain ⟨stage, sound⟩ := sound
  have free (ready : history.isReady = true) : owedBy (history.server.tasks.map Task.view) = [] := by
    rw [sound.orderly.owed, sound.ready ready]
    rfl
  intro key
  have before := balanced key
  cases happens with
  | nothing => exact before
  | @reads number command arguments ready =>
    have owed := (sound.read ready host number command arguments).orderly.owed
    rw [free ready, List.count_nil] at before
    have asks : owedBy ((history.server.tasksFor host number command arguments).map Task.view) = [(number, command)] := by
      rw [owed, current?, List.getLast?_concat]
      rfl
    unfold answered questions at before ⊢
    simp only [asks, List.map_append, List.count_append, List.map_cons, List.map_nil]
    omega
  | ends ready | breaks ready =>
    rw [free ready] at before
    exact before
  | loopWrites writes =>
    rw [writes.views, owedBy_written, List.count_append] at before
    have answers := answered_post history (Task.posted? history.server.tasks).toList (some history.latest)
    unfold answered questions at *
    rw [answers, List.count_append]
    simp only [History.post]
    omega
  | loopDoes tasks performed => exact balanced.loopDoes sound tasks performed key
  | @workerWrites session former ledger wire rest sessions first busy writes =>
    have keeps : ledger.Keeps session := by
      apply (sound.held 0 session ledger (by rw [sessions]; rfl) ?_).1
      rw [← first, List.head?_eq_getElem?]
    have silent : (Task.posted? session.tasks).toList.filterMap (·.content.answers?) = [] := by
      rw [List.filterMap_eq_nil_iff]
      intro message member
      obtain ⟨body, output⟩ := keeps.outputs message.content (by simp only [writes.contents, List.mem_append, List.mem_map]; exact .inl ⟨message, member, rfl⟩)
      rw [output]
      rfl
    have same : ({ session with tasks := rest } : Session σ).owed = session.owed := by
      simp only [Session.owed, Session.reporting?, writes.deeds]
    have answers := answered_post history (Task.posted? session.tasks).toList ledger.cause
    rw [sessions] at before
    unfold answered questions at *
    rw [answers, silent, List.append_nil]
    simp only [List.map_cons, same]
    exact before
  | @workerDoes session former deed rest sessions tasks =>
    rw [sessions] at before
    simp only [List.map_cons, owed_took key tasks]
    exact before
  | works sessions remembered free worked =>
    rw [sessions] at before
    simp only [List.map_cons, owed_work? key free worked]
    exact before
  | @forwarderWrites age session ledger wire rest session? ledger? busy writes =>
    have sum := sum_set (·.owed.count key) { session with forwarding := rest } session?
    have answers := answered_post history (Task.posted? session.forwarding).toList ledger.latestCause
    have owed : session.owed.count key =
        ((Task.posted? session.forwarding).toList.filterMap (·.content.answers?)).count key +
          ({ session with forwarding := rest } : Session σ).owed.count key := by
      simp only [Session.owed, Session.reporting?, writes.contents, List.filterMap_append, List.filterMap_map, List.count_append]
      simp only [Function.comp_def]
      omega
    unfold answered questions at *
    rw [answers, List.count_append]
    simp only [History.post] at before sum ⊢
    omega
  | @showsFrames age session frames rest session? forwarding =>
    have owed : ({ session with forwarding := rest } : Session σ).owed = session.owed := by
      simp only [Session.owed, Session.reporting?, forwarding, Task.contents_own]
    simp only [sum_set_same (·.owed.count key) session? (congrArg (List.count key) owed)]
    exact before
  | @hangsUp age session rest session? forwarding =>
    have owed : ({ session with forwarding := rest, isHeard := false } : Session σ).owed = session.owed := by
      simp only [Session.owed, Session.reporting?, forwarding, Task.contents_own]
    simp only [sum_set_same (·.owed.count key) session? (congrArg (List.count key) owed)]
    exact before
  | @hears age session ledger event rest session? ledger? free events heard =>
    -- What the event answers is owed by the forwarder from now on.
    have owed : ({ session with events := rest, forwarding := forward session.announcesEntry event } : Session σ).owed.count key =
        session.owed.count key := by
      cases answers : event.answers? <;>
        simp only [Session.owed, Session.reporting?, answers?_contents, events, free, Task.contents_nil, List.filterMap_cons,
          List.filterMap_nil, answers, List.count_append, List.count_cons, List.count_nil, Option.toList]
      omega
    simp only [sum_set_same (·.owed.count key) session? owed]
    exact before

/-- No request is lost or answered twice: what was read is answered, or its answer is still under way. -/
theorem answers_conserved (host : Host σ) (attached : Option (Debuggee σ × Bool)) (occurrences : List Occurrence) :
    let history := (begin attached).moved host occurrences
    (history.answered ++ owedBy (history.server.tasks.map Task.view) ++ history.server.sessions.flatMap (·.owed)).Perm
      history.questions := by
  intro history
  have balanced : history.Balanced := by
    refine (happens_induction ?_ (fun _ _ sound happens => happens.balanced sound) occurrences).2
    intro key
    cases attached <;> rfl
  rw [List.perm_iff_count]
  intro key
  rw [← balanced key, List.count_append, List.count_append, List.count_flatMap]
  rfl

end History
end Adapter
end RStepper
