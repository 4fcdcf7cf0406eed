import RStepper.Proofs.EventProtocol
import RStepper.Proofs.Glimpses
import RStepper.Proofs.WatchedConditions

/-! Looking at the program does not change its run. Requests for values and variables may be put in between
the other requests, and conditions may be watched where no breakpoint is; as long as rules answer what that
asks and no such condition holds, the run reports, prints and sends the same as without. -/

namespace RStepper
variable {σ α : Type} {rules : List Rule}

theorem Inspect.isFatal_of_conditionHolds [Interpreter σ] {condition : String} {channel later : Channel σ}
    {failure : Failure} (ran : (conditionHolds condition).runOver channel = (.error failure, later)) :
    failure.isFatal = true := by
  rw [conditionHolds, Talk.runOver_tryCatch] at ran
  split at ran
  · cases ran
  next raised _ _ =>
    split at ran
    next fatal =>
      cases ran
      exact fatal
    next => cases ran

namespace Debuggee

/-- The same stack, and a channel that shadows the other one. -/
structure Shadows (rules : List Rule) (inserted : List Sending) (plain observed : Debuggee Scripted) : Prop where
  stack : plain.stack = observed.stack
  channel : Channel.Shadows rules inserted plain.channel observed.channel

variable {inserted : List Sending} {plain observed later : Debuggee Scripted}

theorem Shadows.eq (shadows : Shadows rules inserted plain observed) :
    plain = { observed with channel := plain.channel } := by
  obtain ⟨stack, channel⟩ := plain
  cases (show stack = observed.stack from shadows.stack)
  rfl

/-- What is done to the observed program and is mirrored on all alike channels is done to the other one too. -/
theorem Shadows.act (shadows : Shadows rules inserted plain observed)
    {act : Debuggee Scripted → Except Failure α × Debuggee Scripted} (mirrors : observed.Mirrors rules act)
    {outcome : Except Failure α} (ran : act observed = (outcome, later)) (lasting : Channel.Lasting rules later.channel) :
    ∃ plainLater, act plain = (outcome, plainLater) ∧ Shadows rules inserted plainLater later := by
  obtain ⟨channel, same, abreast⟩ := mirrors ran lasting shadows.channel.alike
  rw [← shadows.eq] at same
  exact ⟨_, same, rfl, shadows.channel.abreast abreast⟩

theorem Shadows.advance (shadows : Shadows rules inserted plain observed) {outcome : Except Failure Bool}
    (ran : observed.advance = (outcome, later)) (lasting : Channel.Lasting rules later.channel) :
    ∃ plainLater, plain.advance = (outcome, plainLater) ∧ Shadows rules inserted plainLater later :=
  shadows.act mirrors_advance ran lasting

theorem Shadows.during {means : Means} {talk : Talk Scripted α} (built : talk.Built means)
    (shadows : Shadows rules inserted plain observed) {outcome : Except Failure α}
    (ran : observed.during talk = (outcome, later)) (lasting : Channel.Lasting rules later.channel) :
    ∃ plainLater, plain.during talk = (outcome, plainLater) ∧ Shadows rules inserted plainLater later := by
  have mirrors : observed.Mirrors rules (·.during talk) := mirrors_during built
  exact shadows.act mirrors ran lasting

theorem Shadows.look {talk : Talk Scripted α} (built : talk.Built ⟨false, true⟩) {affirms : α → Bool}
    (shadows : Shadows rules inserted plain observed) {outcome : Except Failure α}
    (ran : observed.during talk = (outcome, later)) (harmless : (observed.glimpse talk affirms).Harmless rules) :
    Shadows rules (inserted ++ (observed.glimpse talk affirms).asked) plain later := by
  obtain ⟨stack, channel⟩ := during_shadows built ran harmless shadows.channel
  exact ⟨shadows.stack.trans stack.symm, channel⟩

theorem denied_of_harmless {condition : String} {outcome : Except Failure Bool}
    (ran : observed.during (Inspect.conditionHolds condition) = (outcome, later))
    (harmless : (observed.glimpse (Inspect.conditionHolds condition) id).Harmless rules) : outcome = .ok false := by
  have found : (observed.glimpse (Inspect.conditionHolds condition) id).outcome = outcome := by
    rw [glimpse, ran]
    rcases outcome with _ | _ <;> rfl
  rcases outcome with failure | _ | _
  · have calm := harmless.calm failure found
    have ended : ((Inspect.conditionHolds condition).runOver observed.channel).1 = .error failure :=
      congrArg Prod.fst ran
    have went : (Inspect.conditionHolds condition).runOver observed.channel = (.error failure, _) := Prod.ext ended rfl
    rw [Inspect.isFatal_of_conditionHolds went] at calm
    cases calm
  · rfl
  · exact absurd found harmless.denied

end Debuggee

namespace Worker
variable {inserted : List Sending} {plain observed later : Debuggee Scripted} {plainPoints points : Breakpoints}

/-- The look at a condition that is watched and not a breakpoint. -/
def looks [Interpreter σ] (plainHit hit : Option Hit) (debuggee : Debuggee σ) : List Glimpse :=
  match plainHit, hit with
  | none, some (.stopIf condition) => [debuggee.glimpse (Inspect.conditionHolds condition) id]
  | _, _ => []

/-- The looks that a leg takes. -/
def glimpses [Interpreter σ] (plainPoints points : Breakpoints) (debuggee : Debuggee σ) : List Glimpse :=
  match debuggee.advance with
  | (.ok moves, moved) =>
    if moves && moved.stack.hasNext then
      looks (plainPoints.hit moved.stack.location).1 (points.hit moved.stack.location).1 moved
    else []
  | (.error _, _) => []

/-- Asking at a breakpoint goes the same way in both runs, and a watched condition does not stop the program. -/
theorem stopsHere_shadows {plainHit hit : Option Hit}
    (extended : hit = plainHit ∨ plainHit = none ∧ ∃ condition, hit = some (.stopIf condition))
    (shadows : Debuggee.Shadows rules inserted plain observed) {outcome : Except Failure Bool}
    (ran : stopsHere hit observed = (outcome, later)) (lasting : Channel.Lasting rules later.channel)
    (harmless : ∀ glimpse ∈ looks plainHit hit observed, glimpse.Harmless rules) :
    ∃ plainLater, stopsHere plainHit plain = (outcome, plainLater) ∧
      Debuggee.Shadows rules (inserted ++ (looks plainHit hit observed).flatMap Glimpse.asked) plainLater later := by
  rcases extended with rfl | ⟨rfl, condition, rfl⟩
  · have unwatched : looks hit hit observed = [] := by cases hit <;> rfl
    rw [unwatched, List.flatMap_nil, List.append_nil]
    unfold stopsHere at ran ⊢
    split at ran
    · cases ran
      exact ⟨plain, rfl, shadows⟩
    · cases ran
      exact ⟨plain, rfl, shadows⟩
    next condition =>
      have built : (Inspect.conditionHolds condition : Talk Scripted Bool).Built Means.all :=
        Inspect.built_conditionHolds rfl condition
      exact shadows.during built ran lasting
  · have harmless := harmless _ (List.mem_singleton_self _)
    have asked : observed.during (Inspect.conditionHolds condition) = (outcome, later) := ran
    refine ⟨plain, by rw [Debuggee.denied_of_harmless asked harmless]; rfl, ?_⟩
    rw [show looks none (some (.stopIf condition)) observed = [_] from rfl, List.flatMap_singleton]
    exact shadows.look (Inspect.built_conditionHolds rfl condition) asked harmless

theorem leg_shadows {run : Run} (extended : plainPoints.Extends points)
    (shadows : Debuggee.Shadows rules inserted plain observed) {result : Except Failure Leg} {left : Breakpoints}
    (ran : leg run points observed = (result, left, later)) (lasting : Channel.Lasting rules later.channel)
    (harmless : ∀ glimpse ∈ glimpses plainPoints points observed, glimpse.Harmless rules) :
    ∃ plainLeft plainLater, leg run plainPoints plain = (result, plainLeft, plainLater) ∧ plainLeft.Extends left ∧
      Debuggee.Shadows rules (inserted ++ (glimpses plainPoints points observed).flatMap Glimpse.asked)
        plainLater later := by
  rw [leg_eq] at ran ⊢
  unfold glimpses at harmless ⊢
  rcases advanced : observed.advance with ⟨failure | moves, moved⟩ <;> rw [advanced] at ran harmless
  · cases ran
    obtain ⟨plainLater, same, along⟩ := shadows.advance advanced lasting
    rw [same]
    exact ⟨plainPoints, plainLater, rfl, extended, by simpa using along⟩
  · dsimp only at ran harmless ⊢
    split at ran
    next goes =>
      rw [if_pos goes] at harmless ⊢
      obtain ⟨leaves, hits⟩ := extended.hit moved.stack.location
      have grows := carries_sendings.stopsHere (points.hit moved.stack.location).1 moved
      rcases stops : stopsHere (points.hit moved.stack.location).1 moved with ⟨outcome, asked⟩
      rw [stops] at grows ran
      cases ran
      obtain ⟨plainMoved, same, along⟩ := shadows.advance advanced (lasting.of_grows grows)
      obtain ⟨plainAsked, sameStop, beside⟩ := stopsHere_shadows hits along stops lasting harmless
      rw [same]
      dsimp only
      rw [along.stack, if_pos goes, sameStop]
      exact ⟨_, plainAsked, by rw [beside.stack], leaves, beside⟩
    next ends =>
      rw [if_neg ends] at harmless ⊢
      cases ran
      obtain ⟨plainLater, same, along⟩ := shadows.advance advanced lasting
      rw [same]
      dsimp only
      rw [along.stack, if_neg ends]
      exact ⟨plainPoints, plainLater, rfl, extended, by simpa using along⟩

/-- Workers that do the same, with programs of which one shadows the other. -/
structure Shadows (rules : List Rule) (inserted : List Sending) (plain observed : Worker Scripted) : Prop where
  debuggee : Debuggee.Shadows rules inserted plain.debuggee observed.debuggee
  activity : observed.activity = plain.activity

theorem endWith_shadows (shadows : Debuggee.Shadows rules inserted plain observed) (stopping : Bool)
    (reports : List Event) (failure : Failure) :
    (endWith stopping observed reports failure).1 = (endWith stopping plain reports failure).1 ∧
      Shadows rules inserted (endWith stopping plain reports failure).2
        (endWith stopping observed reports failure).2 := by
  unfold endWith
  rw [shadows.channel.alike.isStalled]
  split <;> exact ⟨rfl, shadows, rfl⟩

theorem answer_shadows (shadows : Debuggee.Shadows rules inserted plain observed) (stopping : Bool)
    (report : Except String α → Event) (outcome : Except Failure α) :
    (answer stopping report (outcome, observed)).1 = (answer stopping report (outcome, plain)).1 ∧
      Shadows rules inserted (answer stopping report (outcome, plain)).2
        (answer stopping report (outcome, observed)).2 := by
  unfold answer
  cases outcome with
  | ok => exact ⟨rfl, shadows, rfl⟩
  | error failure =>
    dsimp only
    split
    · exact endWith_shadows shadows stopping _ failure
    · exact ⟨rfl, shadows, rfl⟩

theorem answer_calm (stopping : Bool) (report : Except String α → Event) (debuggee : Debuggee Scripted)
    {outcome : Except Failure α} (calm : ∀ failure, outcome = .error failure → failure.isFatal = false) :
    ∃ told, answer stopping report (outcome, debuggee) = ([report told], ⟨debuggee, .idle⟩) := by
  cases outcome with
  | ok value => exact ⟨.ok value, rfl⟩
  | error failure => exact ⟨.error failure.message, by simp [answer, calm failure rfl]⟩

end Worker

/-- Turns with the same reports. -/
structure Turn.Shadows (rules : List Rule) (inserted : List Sending) (plain observed : Turn Scripted) : Prop where
  worker : Worker.Shadows rules inserted plain.worker observed.worker
  breakpoints : plain.breakpoints.Extends observed.breakpoints
  events : observed.events = plain.events

namespace Worker
variable {inserted : List Sending} {plain observed : Debuggee Scripted} {plainPoints points : Breakpoints}

theorem leave_extends (run : Run) (extended : plainPoints.Extends points) :
    (run.leave plainPoints).Extends (run.leave points) := by
  unfold Run.leave
  split
  · exact extended.clearTemporary
  · exact extended

theorem step_shadows (stopping : Bool) {run : Run} (extended : plainPoints.Extends points)
    (shadows : Debuggee.Shadows rules inserted plain observed)
    (lasting : Channel.Lasting rules (step stopping run points observed).worker.debuggee.channel)
    (harmless : ∀ glimpse ∈ glimpses plainPoints points observed, glimpse.Harmless rules) :
    Turn.Shadows rules (inserted ++ (glimpses plainPoints points observed).flatMap Glimpse.asked)
      (step stopping run plainPoints plain) (step stopping run points observed) := by
  rw [step_debuggee] at lasting
  rcases ran : leg run points observed with ⟨result, left, later⟩
  rw [ran] at lasting
  obtain ⟨plainLeft, plainLater, same, leaves, beside⟩ := leg_shadows extended shadows ran lasting harmless
  have leaving := leave_extends run leaves
  unfold step
  rw [ran, same]
  rcases result with failure | _ | reason | _ <;> dsimp only
  · split
    · obtain ⟨events, worker⟩ := endWith_shadows beside stopping [] failure
      exact ⟨worker, leaving, events⟩
    · exact ⟨⟨beside, rfl⟩, leaving, by rw [beside.stack]⟩
  · exact ⟨⟨beside, rfl⟩, leaves, rfl⟩
  · exact ⟨⟨beside, rfl⟩, leaving, by rw [beside.stack]⟩
  · exact ⟨⟨beside, rfl⟩, leaving, rfl⟩

theorem take_shadows (stopping : Bool) (extended : plainPoints.Extends points)
    (shadows : Debuggee.Shadows rules inserted plain observed) (request : Request)
    (lasting : Channel.Lasting rules (take stopping points request observed).worker.debuggee.channel) :
    Turn.Shadows rules inserted (take stopping plainPoints request plain) (take stopping points request observed) := by
  have asks {α : Type} {talk : Talk Scripted α} (built : talk.Built Means.all) (report : Except String α → Event)
      (lasting : Channel.Lasting rules (answer stopping report (observed.during talk)).2.debuggee.channel) :
      (answer stopping report (observed.during talk)).1 = (answer stopping report (plain.during talk)).1 ∧
        Shadows rules inserted (answer stopping report (plain.during talk)).2
          (answer stopping report (observed.during talk)).2 := by
    rw [answer_debuggee] at lasting
    obtain ⟨plainLater, same, beside⟩ := shadows.during built rfl lasting
    rw [same]
    exact answer_shadows beside stopping report _
  match request with
  | .run mode => exact ⟨⟨shadows, by rw [take, take, shadows.stack]⟩, extended, rfl⟩
  | .runTo target => exact ⟨⟨shadows, by rw [take, take, shadows.stack]⟩, extended.setTemporary target, rfl⟩
  | .evaluate id expression =>
    obtain ⟨events, worker⟩ := asks (Inspect.built_evaluate expression) (.evaluated id) lasting
    exact ⟨worker, extended, events⟩
  | .variables id =>
    obtain ⟨events, worker⟩ := asks (Inspect.built_visible rfl) (.variables id) lasting
    exact ⟨worker, extended, events⟩
  | .stop => exact ⟨⟨shadows, rfl⟩, extended, rfl⟩

theorem Shadows.release {plain observed : Worker Scripted} (shadows : Shadows rules inserted plain observed)
    (extended : plainPoints.Extends points) :
    Turn.Shadows rules inserted ⟨plain.release.1, plainPoints, plain.release.2⟩
      ⟨observed.release.1, points, observed.release.2⟩ := by
  unfold Worker.release
  rw [shadows.activity]
  cases plain.activity with
  | stalled => exact ⟨⟨shadows.debuggee, rfl⟩, extended, rfl⟩
  | idle | running | ended => exact ⟨shadows, extended, rfl⟩

end Worker

/-- What a run reports of the program: its pauses and its end. -/
def Event.isOfRun : Event → Bool
  | .stopped _ | .terminated | .failed _ => true
  | .evaluated .. | .variables .. => false

/-- What happens in a session: a request, a leg of a run, an edit of the breakpoints, or the end from outside. -/
inductive Deed where
  | request (request : Request)
  | leg
  | edit (edit : Breakpoints.Edit)
  | shutdown
  | release

/-- What happens in a session that is observed: its own deeds, and looks at the program, which are taken at
pauses or watch conditions. -/
inductive Incident where
  | deed (deed : Deed)
  | evaluate (id : Nat) (expression : String)
  | variables (id : Nat)
  | watch (location : Location) (condition : String)

def Incident.isDeed : Incident → Bool
  | .deed _ => true
  | .evaluate .. | .variables .. | .watch .. => false

/-- What is done to the worker, given the breakpoints that are set. -/
def Incident.move (breakpoints : Breakpoints) : Incident → Move
  | .deed (.request request) => .request request
  | .deed .leg => .leg
  | .deed (.edit edit) => .alter (breakpoints.edit edit)
  | .deed .shutdown => .shutdown
  | .deed .release => .release
  | .evaluate id expression => .request (.evaluate id expression)
  | .variables id => .request (.variables id)
  | .watch location condition => .alter (breakpoints.watch location condition)

namespace Chronicle
variable [Interpreter σ]

def incur (chronicle : Chronicle σ) (incident : Incident) : Chronicle σ :=
  chronicle.move (incident.move chronicle.breakpoints)

def incurred (chronicle : Chronicle σ) (incidents : List Incident) : Chronicle σ :=
  incidents.foldl incur chronicle

/-- The look that an inspection takes if the worker waits for a request. -/
def inspection (chronicle : Chronicle σ) (talk : Talk σ α) : List Glimpse :=
  match chronicle.worker.activity with
  | .idle => [chronicle.worker.debuggee.glimpse talk fun _ => false]
  | _ => []

/-- The looks of the next leg at conditions that are watched, beside the breakpoints of the run that is not observed. -/
def lookouts (plainPoints : Breakpoints) (chronicle : Chronicle σ) : List Glimpse :=
  match chronicle.worker.activity with
  | .running _ => Worker.glimpses plainPoints chronicle.breakpoints chronicle.worker.debuggee
  | _ => []

/-- The looks at the program that an incident brings. -/
def glimpses (plainPoints : Breakpoints) (chronicle : Chronicle σ) : Incident → List Glimpse
  | .deed .leg => chronicle.lookouts plainPoints
  | .evaluate _ expression => chronicle.inspection (Inspect.evaluate expression)
  | .variables _ => chronicle.inspection Inspect.visible
  | .deed _ | .watch .. => []

/-- The looks of a whole session, beside the session that is not observed. -/
def glimpsesIn (plain observed : Chronicle σ) : List Incident → List Glimpse
  | [] => []
  | incident :: rest => observed.glimpses plain.breakpoints incident ++
    glimpsesIn (plain.incurred ([incident].filter Incident.isDeed)) (observed.incur incident) rest

/-- A turn was taken and reported. -/
structure Takes (chronicle : Chronicle σ) (turn : Turn σ) (later : Chronicle σ) : Prop where
  worker : later.worker = turn.worker
  breakpoints : later.breakpoints = turn.breakpoints
  isStopping : later.isStopping = chronicle.isStopping
  events : later.events = chronicle.events ++ turn.events

theorem takes_request {chronicle : Chronicle σ} (idle : chronicle.worker.activity = .idle) (request : Request) :
    chronicle.Takes (Worker.take chronicle.isStopping chronicle.breakpoints request chronicle.worker.debuggee)
      (chronicle.move (.request request)) := by
  rw [move_request idle]
  refine ⟨rfl, rfl, rfl, ?_⟩
  rw [events_behind _ (by simp)]
  simp [events]

theorem takes_leg {chronicle : Chronicle σ} {run : Run} (running : chronicle.worker.activity = .running run)
    (consistent : chronicle.Consistent) :
    chronicle.Takes (Worker.step chronicle.isStopping run chronicle.breakpoints chronicle.worker.debuggee)
      (chronicle.move .leg) := by
  obtain ⟨newest, older, accounts, _⟩ := (running ▸ consistent.present).of_running
  rw [move_leg running]
  refine ⟨rfl, rfl, rfl, ?_⟩
  rw [events_behind _ (by simp [accounts])]
  rfl

theorem takes_release {chronicle : Chronicle σ} (stopping : chronicle.isStopping = true)
    (consistent : chronicle.Consistent) :
    chronicle.Takes ⟨chronicle.worker.release.1, chronicle.breakpoints, chronicle.worker.release.2⟩
      (chronicle.move .release) := by
  unfold move
  rw [if_pos stopping]
  refine ⟨rfl, rfl, rfl, ?_⟩
  by_cases unasked : chronicle.accounts = []
  · have silent : chronicle.worker.release.1 = [] := by
      have present := consistent.present
      rw [unasked] at present
      unfold Worker.release
      cases activity : chronicle.worker.activity with
      | stalled withheld => rw [activity] at present; cases present
      | idle | running | ended => rfl
    simp [behind, events, silent]
  · exact events_behind _ unasked

end Chronicle

/-- Two sessions, one of them observed, that have come to the same. -/
structure Chronicle.Shadows (rules : List Rule) (inserted : List Sending) (plain observed : Chronicle Scripted) :
    Prop where
  worker : Worker.Shadows rules inserted plain.worker observed.worker
  breakpoints : plain.breakpoints.Extends observed.breakpoints
  isStopping : observed.isStopping = plain.isStopping
  events : observed.events.filter Event.isOfRun = plain.events.filter Event.isOfRun

namespace Chronicle
variable {inserted : List Sending} {plain observed : Chronicle Scripted}

theorem shadows_begin (source : String) (script : Scripted) (breakpoints : Breakpoints) :
    Shadows script.rules [] (begin source script breakpoints) (begin source script breakpoints) := by
  have channel : (begin source script breakpoints).worker.debuggee.channel = .fresh script := by
    unfold begin Worker.start
    split <;> rfl
  refine ⟨⟨⟨rfl, ?_⟩, rfl⟩, .refl _, rfl, rfl⟩
  rw [channel]
  exact ⟨⟨rfl, rfl, rfl, Nat.le_refl _, rfl⟩, rfl, by simp, rfl⟩

theorem Shadows.turn {known : List Sending} {laterPlain later : Chronicle Scripted} {plainTurn turn : Turn Scripted}
    (shadows : Shadows rules inserted plain observed) (turns : Turn.Shadows rules known plainTurn turn)
    (plainTakes : plain.Takes plainTurn laterPlain) (takes : observed.Takes turn later) :
    Shadows rules known laterPlain later := by
  refine ⟨?_, ?_, ?_, ?_⟩
  · rw [plainTakes.worker, takes.worker]
    exact turns.worker
  · rw [plainTakes.breakpoints, takes.breakpoints]
    exact turns.breakpoints
  · rw [takes.isStopping, plainTakes.isStopping, shadows.isStopping]
  · rw [takes.events, plainTakes.events, List.filter_append, List.filter_append, shadows.events, turns.events]

theorem Shadows.request (shadows : Shadows rules inserted plain observed) (request : Request)
    (lasting : Channel.Lasting rules (observed.move (.request request)).worker.debuggee.channel) :
    Shadows rules inserted (plain.move (.request request)) (observed.move (.request request)) := by
  have activity := shadows.worker.activity
  by_cases idle : plain.worker.activity = .idle
  · have takes := takes_request (activity.trans idle) request
    rw [takes.worker] at lasting
    have turns := Worker.take_shadows observed.isStopping shadows.breakpoints shadows.worker.debuggee request lasting
    rw [shadows.isStopping] at turns takes
    exact shadows.turn turns (takes_request idle request) takes
  · rw [move_request_busy idle, move_request_busy (activity ▸ idle)]
    exact shadows

theorem Shadows.leg (shadows : Shadows rules inserted plain observed) (plainConsistent : plain.Consistent)
    (consistent : observed.Consistent) (lasting : Channel.Lasting rules (observed.move .leg).worker.debuggee.channel)
    (harmless : ∀ glimpse ∈ observed.lookouts plain.breakpoints, glimpse.Harmless rules) :
    Shadows rules (inserted ++ (observed.lookouts plain.breakpoints).flatMap Glimpse.asked) (plain.move .leg)
      (observed.move .leg) := by
  have activity := shadows.worker.activity
  unfold lookouts at harmless ⊢
  cases running : plain.worker.activity with
  | running run =>
    have same := activity.trans running
    have takes := takes_leg same consistent
    rw [same] at harmless ⊢
    rw [takes.worker] at lasting
    have turns := Worker.step_shadows observed.isStopping shadows.breakpoints shadows.worker.debuggee lasting harmless
    rw [shadows.isStopping] at turns takes
    exact shadows.turn turns (takes_leg running plainConsistent) takes
  | idle | stalled | ended =>
    have resting (run : Run) : plain.worker.activity ≠ .running run := by simp [running]
    rw [move_leg_resting resting, move_leg_resting (activity ▸ resting), activity, running]
    simpa using shadows

theorem Shadows.release (shadows : Shadows rules inserted plain observed) (plainConsistent : plain.Consistent)
    (consistent : observed.Consistent) : Shadows rules inserted (plain.move .release) (observed.move .release) := by
  by_cases stopping : plain.isStopping = true
  · exact shadows.turn (shadows.worker.release shadows.breakpoints) (takes_release stopping plainConsistent)
      (takes_release (shadows.isStopping.trans stopping) consistent)
  · have kept {chronicle : Chronicle Scripted} (going : chronicle.isStopping = plain.isStopping) :
        chronicle.move .release = chronicle := if_neg (going ▸ stopping)
    rw [kept rfl, kept shadows.isStopping]
    exact shadows

theorem Shadows.deed (shadows : Shadows rules inserted plain observed) (plainConsistent : plain.Consistent)
    (consistent : observed.Consistent) (deed : Deed)
    (lasting : Channel.Lasting rules (observed.incur (.deed deed)).worker.debuggee.channel)
    (harmless : ∀ glimpse ∈ observed.glimpses plain.breakpoints (.deed deed), glimpse.Harmless rules) :
    Shadows rules (inserted ++ (observed.glimpses plain.breakpoints (.deed deed)).flatMap Glimpse.asked)
      (plain.incur (.deed deed)) (observed.incur (.deed deed)) := by
  have none : inserted ++ ([] : List Glimpse).flatMap Glimpse.asked = inserted := List.append_nil _
  unfold glimpses at harmless ⊢
  unfold incur Incident.move at lasting ⊢
  cases deed with
  | leg => exact shadows.leg plainConsistent consistent lasting harmless
  | request request =>
    dsimp only
    rw [none]
    exact shadows.request request lasting
  | edit edit =>
    dsimp only
    rw [none]
    exact ⟨shadows.worker, shadows.breakpoints.edit edit, shadows.isStopping, shadows.events⟩
  | shutdown =>
    dsimp only
    rw [none]
    exact ⟨shadows.worker, shadows.breakpoints, rfl, shadows.events⟩
  | release =>
    dsimp only
    rw [none]
    exact shadows.release plainConsistent consistent

theorem Shadows.inspection {talk : Talk Scripted α} (built : talk.Built ⟨false, true⟩)
    {report : Except String α → Event} (ofLook : ∀ answer, (report answer).isOfRun = false) {request : Request}
    (taken : ∀ stopping breakpoints debuggee, Worker.take stopping breakpoints request debuggee =
      let (events, worker) := Worker.answer stopping report (debuggee.during talk)
      ⟨events, breakpoints, worker⟩)
    (shadows : Shadows rules inserted plain observed)
    (harmless : ∀ glimpse ∈ observed.inspection talk, glimpse.Harmless rules) :
    Shadows rules (inserted ++ (observed.inspection talk).flatMap Glimpse.asked) plain
      (observed.move (.request request)) := by
  by_cases idle : observed.worker.activity = .idle
  · have looks : observed.inspection talk = [observed.worker.debuggee.glimpse talk fun _ => false] := by
      simp [Chronicle.inspection, idle]
    have harmless := harmless _ (looks ▸ List.mem_singleton_self _)
    have takes := takes_request idle request
    rw [taken] at takes
    rcases ran : observed.worker.debuggee.during talk with ⟨outcome, behind⟩
    have beside := shadows.worker.debuggee.look built ran harmless
    have calm := harmless.calm
    rw [Debuggee.glimpse, ran] at calm
    have quiet (failure : Failure) (failed : outcome = .error failure) : failure.isFatal = false :=
      calm failure (by rw [failed]; rfl)
    obtain ⟨told, answered⟩ := Worker.answer_calm observed.isStopping report behind quiet
    rw [ran, answered] at takes
    rw [looks, List.flatMap_singleton]
    refine ⟨?_, ?_, takes.isStopping.trans shadows.isStopping, ?_⟩
    · rw [takes.worker]
      exact ⟨beside, (shadows.worker.activity ▸ idle).symm⟩
    · rw [takes.breakpoints]
      exact shadows.breakpoints
    · rw [takes.events, List.filter_append, shadows.events]
      simp [ofLook]
  · have looks : observed.inspection talk = [] := by
      unfold Chronicle.inspection
      split
      next waits => exact absurd waits idle
      next => rfl
    rw [looks, List.flatMap_nil, List.append_nil, move_request_busy idle]
    exact shadows

theorem Shadows.look (shadows : Shadows rules inserted plain observed) {incident : Incident}
    (look : incident.isDeed = false)
    (harmless : ∀ glimpse ∈ observed.glimpses plain.breakpoints incident, glimpse.Harmless rules) :
    Shadows rules (inserted ++ (observed.glimpses plain.breakpoints incident).flatMap Glimpse.asked) plain
      (observed.incur incident) := by
  match incident, look, harmless with
  | .evaluate id expression, _, harmless =>
    exact shadows.inspection (Inspect.built_evaluate expression) (fun _ => rfl) (fun _ _ _ => rfl) harmless
  | .variables id, _, harmless =>
    exact shadows.inspection (Inspect.built_visible rfl) (fun _ => rfl) (fun _ _ _ => rfl) harmless
  | .watch location condition, _, _ =>
    rw [show observed.glimpses plain.breakpoints (.watch location condition) = [] from rfl, List.flatMap_nil,
      List.append_nil]
    exact ⟨shadows.worker, shadows.breakpoints.watch location condition, shadows.isStopping, shadows.events⟩

theorem consistent_incurred {chronicle : Chronicle Scripted} (consistent : chronicle.Consistent)
    (incidents : List Incident) : (chronicle.incurred incidents).Consistent := by
  induction incidents generalizing chronicle with
  | nil => exact consistent
  | cons incident rest ih => exact ih (move_consistent _ consistent)

/-- What holds between the channels before and behind all parts holds between those before and behind a session. -/
theorem carries_incurred {allowed : Channel Scripted → Channel Scripted → Prop} (carries : Carries allowed)
    (chronicle : Chronicle Scripted) (incidents : List Incident) :
    allowed chronicle.worker.debuggee.channel (chronicle.incurred incidents).worker.debuggee.channel := by
  induction incidents generalizing chronicle with
  | nil => exact carries.refl _
  | cons incident rest ih => exact carries.trans (carries.move chronicle _) (ih (chronicle.incur incident))

/-- Beside each other the sessions go on, incident by incident: a deed is done in both, a look is taken in one. -/
theorem Shadows.incurred (shadows : Shadows rules inserted plain observed) (plainConsistent : plain.Consistent)
    (consistent : observed.Consistent) {incidents : List Incident}
    (lasting : Channel.Lasting rules (observed.incurred incidents).worker.debuggee.channel)
    (harmless : ∀ glimpse ∈ glimpsesIn plain observed incidents, glimpse.Harmless rules) :
    Shadows rules (inserted ++ (glimpsesIn plain observed incidents).flatMap Glimpse.asked)
      (plain.incurred (incidents.filter Incident.isDeed)) (observed.incurred incidents) := by
  induction incidents generalizing plain observed inserted with
  | nil => simpa [glimpsesIn, Chronicle.incurred] using shadows
  | cons incident rest ih =>
    have lastingThen : Channel.Lasting rules (observed.incur incident).worker.debuggee.channel :=
      lasting.of_grows (carries_incurred carries_sendings (observed.incur incident) rest)
    have now : ∀ glimpse ∈ observed.glimpses plain.breakpoints incident, glimpse.Harmless rules :=
      fun glimpse member => harmless glimpse (List.mem_append_left _ member)
    have first : Shadows rules (inserted ++ (observed.glimpses plain.breakpoints incident).flatMap Glimpse.asked)
        (plain.incurred ([incident].filter Incident.isDeed)) (observed.incur incident) := by
      match incident, lastingThen, now with
      | .deed deed, lastingThen, now => exact shadows.deed plainConsistent consistent deed lastingThen now
      | .evaluate .., _, now | .variables _, _, now | .watch .., _, now => exact shadows.look rfl now
    have further := ih first (consistent_incurred plainConsistent _) (move_consistent _ consistent) lasting
      fun glimpse member => harmless glimpse (List.mem_append_right _ member)
    have split : (incident :: rest).filter Incident.isDeed =
        [incident].filter Incident.isDeed ++ rest.filter Incident.isDeed :=
      List.filter_append (p := Incident.isDeed) [incident] rest
    rw [split, glimpsesIn, List.flatMap_append, ← List.append_assoc]
    unfold Chronicle.incurred at further ⊢
    rw [List.foldl_append]
    exact further

/-- Observation does not change a run. With looks in between, each of which rules answer, which do not end
the session and find no watched condition to hold, the run reports, prints and sends the same as without, and
comes to the same stack. Rules are never used up: where one answers the step itself, which a look at a variable
of that name may ask for too, the steps it may answer are enough. -/
theorem observation_keeps_run (source : String) (script : Scripted) (breakpoints : Breakpoints)
    (incidents : List Incident)
    (harmless : ∀ glimpse ∈ glimpsesIn (begin source script breakpoints) (begin source script breakpoints) incidents,
      glimpse.Harmless script.rules)
    (lasting : (Rule.first? script.rules stepCommand).isSome →
      Channel.Lasting script.rules ((begin source script breakpoints).incurred incidents).worker.debuggee.channel) :
    let begun := begin source script breakpoints
    let plain := begun.incurred (incidents.filter Incident.isDeed)
    let observed := begun.incurred incidents
    let asked := (glimpsesIn begun begun incidents).flatMap Glimpse.asked
    observed.events.filter Event.isOfRun = plain.events.filter Event.isOfRun ∧
      observed.worker.debuggee.channel.output = plain.worker.debuggee.channel.output ∧
      observed.worker.debuggee.stack = plain.worker.debuggee.stack ∧
      (observed.worker.debuggee.channel.sendings.filter (· ∉ asked)).map Sending.exchange =
        plain.worker.debuggee.channel.sendings.map Sending.exchange := by
  have fresh : (begin source script breakpoints).worker.debuggee.channel = .fresh script := by
    unfold begin Worker.start
    split <;> rfl
  have lasts : Channel.Lasting script.rules
      ((begin source script breakpoints).incurred incidents).worker.debuggee.channel := by
    cases stepped : Rule.first? script.rules stepCommand with
    | some rule => exact lasting (by simp [stepped])
    | none =>
      refine (carries_incurred (Channel.carries_lasting stepped) (begin source script breakpoints) incidents ?_ ?_).2
      · rw [fresh]
        rfl
      · rw [fresh]
        exact fun sending member => absurd member List.not_mem_nil
  have consistent := consistent_start (.start source script) breakpoints
  have shadows := (shadows_begin source script breakpoints).incurred consistent consistent lasts harmless
  rw [List.nil_append] at shadows
  exact ⟨shadows.events, shadows.worker.debuggee.channel.output, shadows.worker.debuggee.stack.symm,
    shadows.worker.debuggee.channel.sent⟩

/-- Three statements are run. Rules answer what looks ask, and the step too, which is also the name of a variable. -/
def glancedAt : Scripted where
  rules := [⟨"eval(", .said "[1] FALSE\nBrowse[1]> " ""⟩, ⟨"ls()", .said "[1] \"n\"\nBrowse[1]> " ""⟩,
    ⟨"Filter(", .said "character(0)\nBrowse[1]> " ""⟩, ⟨"n", .said "[1] 7\nBrowse[1]> " ""⟩]
  replies := [.said "[1] 1\nBrowse[1]> " "", .said "[1] 2\nBrowse[1]> " ""]
  ruledSteps := 1

/-- A watched condition on the way to a breakpoint, and the variables and a value there. -/
def glances : List Incident :=
  [.watch (.inScript 2) "n > 7", .deed (.edit (.add (.inScript 3))), .deed (.request (.run .resume)), .deed .leg,
    .deed .leg, .variables 1, .evaluate 2 "n"]

private theorem glances_answered :
    let begun := begin "print(1)\nprint(2)\nprint(3)" glancedAt ⟨[], none⟩
    let looks := glimpsesIn begun begun glances
    (looks.flatMap Glimpse.asked).length = 5 ∧
      (∀ glimpse ∈ looks, ∀ sending ∈ glimpse.asked, sending.IsRuled glancedAt.rules) ∧
      (∀ glimpse ∈ looks, glimpse.outcome.toOption = some false) ∧
      (Rule.first? glancedAt.rules stepCommand).isSome ∧
      Channel.Lasting glancedAt.rules (begun.incurred glances).worker.debuggee.channel := by
  unfold Channel.Lasting Sending.IsRuled
  decide +kernel

theorem glances_keep_run :
    let begun := begin "print(1)\nprint(2)\nprint(3)" glancedAt ⟨[], none⟩
    let plain := begun.incurred (glances.filter Incident.isDeed)
    let observed := begun.incurred glances
    let looks := glimpsesIn begun begun glances
    let asked := looks.flatMap Glimpse.asked
    asked.length = 5 ∧ (∀ glimpse ∈ looks, glimpse.Harmless glancedAt.rules) ∧
      (Rule.first? glancedAt.rules stepCommand).isSome ∧
      Channel.Lasting glancedAt.rules observed.worker.debuggee.channel ∧
      observed.events.filter Event.isOfRun = plain.events.filter Event.isOfRun ∧
      observed.worker.debuggee.channel.output = plain.worker.debuggee.channel.output ∧
      observed.worker.debuggee.stack = plain.worker.debuggee.stack ∧
      (observed.worker.debuggee.channel.sendings.filter (· ∉ asked)).map Sending.exchange =
        plain.worker.debuggee.channel.sendings.map Sending.exchange := by
  obtain ⟨count, answered, denied, stepped, lasting⟩ := glances_answered
  have harmless := fun glimpse member => Glimpse.Harmless.of_denied (answered glimpse member) (denied glimpse member)
  exact ⟨count, harmless, stepped, lasting,
    observation_keeps_run "print(1)\nprint(2)\nprint(3)" glancedAt ⟨[], none⟩ glances harmless fun _ => lasting⟩

end Chronicle
end RStepper
