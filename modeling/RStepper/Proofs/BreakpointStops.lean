import RStepper.Interpreter.Scripted
import RStepper.Proofs.WorkerHistory

/-! No breakpoint is run over. Where a breakpoint is set, the program goes on only in the first leg of a
request, from the pause that was reported last. -/

namespace RStepper
variable {σ α : Type}

/-- A condition was asked, and the whole answer is that it holds, without an error. -/
def Sending.affirms (sending : Sending) (condition : String) : Bool :=
  sending.command == Inspect.evaluationCommand (Inspect.conditionExpression condition) &&
    match sending.reply with
    | .said body diagnostics =>
      (Diagnostics.runtimeError diagnostics).isNone &&
        (Response.classify (sending.command ++ "\n" ++ body)).any fun response =>
          [.printed, .quiet].contains response.kind && Text.trim response.output.toList == "[1] TRUE".toList
    | .closed | .pending => false

namespace Inspect
variable [Interpreter σ]

theorem sendings_evaluate (expression : String) (channel : Channel σ) :
    ((evaluate expression).runOver channel).2.sendings =
      channel.sendings ++ [channel.sending (evaluationCommand expression)] := by
  rw [← Talk.sendings_expecting (evaluationCommand expression) [.printed, .quiet], evaluate, Talk.runOver_bind]
  rcases (Talk.expecting (evaluationCommand expression) [.printed, .quiet]).runOver channel with ⟨_ | _, _⟩ <;> rfl

theorem sendings_conditionHolds (condition : String) (channel : Channel σ) :
    ((conditionHolds condition).runOver channel).2.sendings =
      channel.sendings ++ [channel.sending (evaluationCommand (conditionExpression condition))] := by
  rw [← sendings_evaluate, conditionHolds, Talk.runOver_tryCatch, Talk.runOver_bind]
  rcases (evaluate (conditionExpression condition)).runOver channel with ⟨failure | printed, later⟩
  · dsimp only
    split <;> rfl
  · rfl

theorem conditionHolds_of_affirms {condition : String} {channel : Channel σ}
    (affirms : (channel.sending (evaluationCommand (conditionExpression condition))).affirms condition = true) :
    ((conditionHolds condition).runOver channel).1 = .ok true := by
  unfold Sending.affirms Channel.sending at affirms
  dsimp only at affirms
  split at affirms
  next body diagnostics said =>
    simp only [Bool.and_eq_true, Option.any_eq_true, Option.isNone_iff_eq_none, List.contains_iff_mem, beq_iff_eq] at affirms
    obtain ⟨_, clean, response, classified, placed, shown⟩ := affirms
    have printed := Talk.expecting_said said classified clean placed
    have holds : Text.trim response.output.toList = truth.toList := shown
    rw [conditionHolds, Talk.runOver_tryCatch, Talk.runOver_bind, evaluate, Talk.runOver_bind]
    rcases ran : (Talk.expecting (evaluationCommand (conditionExpression condition)) [.printed, .quiet]).runOver channel
      with ⟨failure | found, later⟩ <;> rw [ran] at printed <;> cases printed
    change Except.ok (Text.trim response.output.toList == truth.toList) = _
    rw [holds, beq_self_eq_true]
  · simp at affirms
  · simp at affirms

end Inspect

namespace Breakpoints

theorem hit_cases (breakpoints : Breakpoints) (location : Location) :
    breakpoints.hit location = (some .stop, breakpoints.clearTemporary) ∨
      breakpoints.hit location = ((breakpoints.find? location).map Breakpoint.hit, breakpoints) := by
  unfold hit
  split
  · exact .inl rfl
  · exact .inr rfl

end Breakpoints

namespace Worker
variable [Interpreter σ]

/-- A run does not go on from a breakpoint that has no condition, nor from one whose condition held when
it was reached. -/
theorem leg_goOn_breakpoint {run : Run} {breakpoints left : Breakpoints} {debuggee asked : Debuggee σ}
    {breakpoint : Breakpoint} (ran : leg run breakpoints debuggee = (.ok .goOn, left, asked))
    (set : left.find? asked.stack.location = some breakpoint) :
    ∃ condition sending, breakpoint.condition = some condition ∧
      asked.channel.sendings.getLast? = some sending ∧ sending.affirms condition = false := by
  obtain ⟨moved, hit, _, _, found, stops, _⟩ := leg_goOn ran
  have same : asked.stack = moved.stack := by rw [← stack_stopsHere hit moved, stops]
  rw [same] at set
  rcases breakpoints.hit_cases moved.stack.location with temporary | lasting
  · rw [temporary] at found
    cases found
    cases stops
  · rw [lasting] at found
    cases found
    rw [set, Option.map_some] at stops
    cases conditional : breakpoint.condition with
    | none => simp [stopsHere, Breakpoint.hit, conditional] at stops
    | some condition =>
      let command := Inspect.evaluationCommand (Inspect.conditionExpression condition)
      have held : moved.during (Inspect.conditionHolds condition) = (.ok false, asked) := by
        simpa [stopsHere, Breakpoint.hit, conditional] using stops
      have outcome : ((Inspect.conditionHolds condition).runOver moved.channel).1 = .ok false := congrArg Prod.fst held
      have sent := Inspect.sendings_conditionHolds condition moved.channel
      have behind : ((Inspect.conditionHolds condition).runOver moved.channel).2 = asked.channel :=
        congrArg (fun result => result.2.channel) held
      rw [behind] at sent
      refine ⟨condition, moved.channel.sending command, rfl, by simp [sent, command], ?_⟩
      cases affirms : (moved.channel.sending command).affirms condition with
      | false => rfl
      | true => cases (Inspect.conditionHolds_of_affirms affirms).symm.trans outcome

end Worker

theorem Stack.headD_locations (stack : Stack) (other : Location) : stack.locations.headD other = stack.location := by
  cases calls : stack.calls <;> simp [locations, location, calls]

namespace Chronicle

def stop? : Event → Option Stop
  | .stopped stop => some stop
  | .evaluated .. | .variables .. | .terminated | .failed _ => none

/-- The pause that was reported last. -/
def lastStop? (chronicle : Chronicle σ) : Option Stop :=
  (chronicle.events.filterMap stop?).getLast?

theorem lastStop?_of_events {chronicle later : Chronicle σ} {more : List Event}
    (events : later.events = chronicle.events ++ more) (none : more.filterMap stop? = []) :
    later.lastStop? = chronicle.lastStop? := by
  rw [lastStop?, lastStop?, events, List.filterMap_append, none, List.append_nil]

theorem lastStop?_of_stopped {chronicle later : Chronicle σ} {stop : Stop}
    (events : later.events = chronicle.events ++ [.stopped stop]) : later.lastStop? = some stop := by
  simp [lastStop?, events, stop?]

/-- The program stands at a breakpoint that has to stop it: one without a condition, or one whose condition
held when the last leg asked for it. -/
def Halts (chronicle : Chronicle σ) : Prop :=
  ∃ breakpoint, chronicle.breakpoints.find? chronicle.worker.debuggee.stack.location = some breakpoint ∧
    ∀ condition, breakpoint.condition = some condition → chronicle.arrival.any (·.affirms condition) = true

/-- The pause reported last is where the program stands, unless a run has left it; and a run does not come to
a breakpoint that has to stop it. -/
structure Watched (chronicle : Chronicle σ) : Prop where
  asked : chronicle.worker.isRunning = true → chronicle.accounts ≠ []
  shown : chronicle.worker.activity = .idle ∨ chronicle.worker.isRunning = true ∧ chronicle.legs = 0 →
    ∃ stop, chronicle.lastStop? = some stop ∧ stop.frames = chronicle.worker.debuggee.stack.locations
  passed : chronicle.worker.isRunning = true → 0 < chronicle.legs → ¬ chronicle.Halts

theorem Watched.of_idle {chronicle : Chronicle σ} {stop : Stop} (idle : chronicle.worker.activity = .idle)
    (last : chronicle.lastStop? = some stop) (frames : stop.frames = chronicle.worker.debuggee.stack.locations) :
    chronicle.Watched where
  asked running := by simp [Worker.isRunning, idle] at running
  shown _ := ⟨stop, last, frames⟩
  passed running := by simp [Worker.isRunning, idle] at running

/-- A worker whose session is over, or has only its last reports left to send. -/
theorem Watched.of_inactive {chronicle : Chronicle σ}
    (inactive : chronicle.worker.activity = .ended ∨ ∃ withheld, chronicle.worker.activity = .stalled withheld) :
    chronicle.Watched := by
  have rests : chronicle.worker.activity ≠ .idle ∧ chronicle.worker.isRunning = false := by
    rcases inactive with ended | ⟨withheld, stalled⟩
    · simp [Worker.isRunning, ended]
    · simp [Worker.isRunning, stalled]
  obtain ⟨unasked, resting⟩ := rests
  exact {
    asked := fun running => by simp [resting] at running
    shown := fun active => by simp [unasked, resting] at active
    passed := fun running => by simp [resting] at running }

theorem watched_start (debuggee : Debuggee σ) (breakpoints : Breakpoints) : (start debuggee breakpoints).Watched := by
  unfold start Worker.start
  dsimp only
  split
  · exact .of_idle rfl rfl rfl
  · exact .of_inactive (.inl rfl)

theorem answer_watched {chronicle : Chronicle σ} {report : Except String α → Event} {talk : Talk σ α} {stop : Stop}
    (asked : chronicle.accounts ≠ []) (last : chronicle.lastStop? = some stop)
    (frames : stop.frames = chronicle.worker.debuggee.stack.locations) (silent : ∀ value, stop? (report value) = none) :
    let answered := Worker.answer chronicle.isStopping report (chronicle.worker.debuggee.during talk)
    (chronicle.behind ⟨answered.1, chronicle.breakpoints, answered.2⟩).Watched := by
  have answers := Worker.answer_answers chronicle.isStopping report (chronicle.worker.debuggee.during talk)
  have same : (chronicle.worker.debuggee.during talk).2.stack = chronicle.worker.debuggee.stack := rfl
  generalize Worker.answer chronicle.isStopping report (chronicle.worker.debuggee.during talk) = answered at answers ⊢
  generalize chronicle.worker.debuggee.during talk = outcome at answers same
  have shown (events : List Event) (worker : Worker σ) (unheard : events.filterMap stop? = []) :
      (chronicle.behind ⟨events, chronicle.breakpoints, worker⟩).lastStop? = some stop :=
    (lastStop?_of_events (events_behind _ asked) unheard).trans last
  cases answers with
  | tells => exact .of_idle rfl (shown _ _ (by simp [silent])) (by rw [frames, ← same]; rfl)
  | regrets => exact .of_idle rfl (shown _ _ (by simp [silent])) (by rw [frames, ← same]; rfl)
  | fails => exact .of_inactive (.inl rfl)
  | stalls => exact .of_inactive (.inr ⟨_, rfl⟩)

variable [Interpreter σ]

/-- The breakpoints are not changed from outside while a run is in progress. -/
def Undisturbed (chronicle : Chronicle σ) : List Move → Prop
  | [] => True
  | move :: rest => (chronicle.worker.isRunning = true → ∀ breakpoints, move ≠ .alter breakpoints) ∧
      (chronicle.move move).Undisturbed rest

theorem undisturbed_of_unaltered {chronicle : Chronicle σ} {moves : List Move}
    (unaltered : ∀ breakpoints, .alter breakpoints ∉ moves) : chronicle.Undisturbed moves := by
  induction moves generalizing chronicle with
  | nil => trivial
  | cons move rest ih =>
    refine ⟨?_, ih fun breakpoints later => unaltered breakpoints (List.mem_cons_of_mem _ later)⟩
    rintro _ breakpoints rfl
    exact unaltered breakpoints List.mem_cons_self

theorem request_watched {chronicle : Chronicle σ} (request : Request) (watched : chronicle.Watched) :
    (chronicle.move (.request request)).Watched := by
  cases activity : chronicle.worker.activity with
  | running | stalled | ended => simpa [move, activity] using watched
  | idle =>
    obtain ⟨stop, last, frames⟩ := watched.shown (.inl activity)
    let pushed : Chronicle σ :=
      { chronicle with accounts := ⟨request, chronicle.worker.debuggee, []⟩ :: chronicle.accounts, legs := 0 }
    have asked : pushed.accounts ≠ [] := List.cons_ne_nil _ _
    have told : pushed.events = chronicle.events := by simp [events, pushed]
    have kept : pushed.lastStop? = some stop := by rw [← last, lastStop?, told, lastStop?]
    rw [move_request activity]
    change (pushed.behind (Worker.take pushed.isStopping pushed.breakpoints request pushed.worker.debuggee)).Watched
    have runs (run : Run) (breakpoints : Breakpoints) :
        (pushed.behind ⟨[], breakpoints, ⟨pushed.worker.debuggee, .running run⟩⟩).Watched := by
      refine ⟨fun _ => noted_ne_nil asked, fun _ => ⟨stop, ?_, frames⟩, fun _ legs => absurd legs (Nat.lt_irrefl 0)⟩
      exact (lastStop?_of_events (events_behind _ asked) rfl).trans kept
    cases request with
    | run | runTo => exact runs _ _
    | stop => exact .of_inactive (.inl rfl)
    | _ => exact answer_watched asked kept frames fun _ => rfl

theorem leg_watched {chronicle : Chronicle σ} (watched : chronicle.Watched) : (chronicle.move .leg).Watched := by
  cases activity : chronicle.worker.activity with
  | idle | stalled | ended => simpa [move, activity] using watched
  | running run =>
    rw [move_leg activity]
    have asked := watched.asked (by simp [Worker.isRunning, activity])
    have turns := Worker.step_turns chronicle.isStopping run chronicle.breakpoints chronicle.worker.debuggee
    generalize Worker.step chronicle.isStopping run chronicle.breakpoints chronicle.worker.debuggee = turn at turns ⊢
    rcases ran : Worker.leg run chronicle.breakpoints chronicle.worker.debuggee with ⟨outcome, left, moved⟩
    rw [ran] at turns
    cases turns with
    | goesOn =>
      refine ⟨fun _ => noted_ne_nil asked, ?_, ?_⟩
      · rintro (idle | ⟨_, first⟩)
        · cases idle
        · cases first
      · rintro _ _ ⟨breakpoint, set, holds⟩
        obtain ⟨condition, sending, conditional, last, fails⟩ := Worker.leg_goOn_breakpoint ran set
        have affirms : moved.channel.sendings.getLast?.any (·.affirms condition) = true := holds condition conditional
        simp [last, fails] at affirms
    | arrives | interrupts => exact .of_idle rfl (lastStop?_of_stopped (events_behind _ asked)) rfl
    | finishes | fails => exact .of_inactive (.inl rfl)
    | stalls => exact .of_inactive (.inr ⟨_, rfl⟩)

theorem move_watched {chronicle : Chronicle σ} {move : Move} (watched : chronicle.Watched)
    (undisturbed : chronicle.worker.isRunning = true → ∀ breakpoints, move ≠ .alter breakpoints) :
    (chronicle.move move).Watched := by
  cases move with
  | request request => exact request_watched request watched
  | leg => exact leg_watched watched
  | alter breakpoints =>
    have resting : chronicle.worker.isRunning ≠ true := fun running => undisturbed running breakpoints rfl
    exact ⟨watched.asked, watched.shown, fun running => absurd running resting⟩
  | shutdown => exact ⟨watched.asked, watched.shown, watched.passed⟩
  | release =>
    dsimp only [Chronicle.move]
    split
    next =>
      cases activity : chronicle.worker.activity with
      | stalled withheld =>
        simp only [Worker.release, activity]
        exact .of_inactive (.inl rfl)
      | idle | running | ended => simpa [Worker.release, behind, activity] using watched
    next => exact watched

theorem moved_watched {chronicle : Chronicle σ} {moves : List Move} (watched : chronicle.Watched)
    (undisturbed : chronicle.Undisturbed moves) : (chronicle.moved moves).Watched := by
  induction moves generalizing chronicle with
  | nil => exact watched
  | cons move rest ih => exact ih (move_watched watched undisturbed.1) undisturbed.2

/-- The program never goes on from a breakpoint that has to stop it, but in the first leg of a request, and
then from the very frames of the pause that was reported last. -/
theorem breakpoint_not_run_over {source : String} {interpreter : σ} {breakpoints : Breakpoints} {moves : List Move}
    (undisturbed : (begin source interpreter breakpoints).Undisturbed moves)
    (running : ((begin source interpreter breakpoints).moved moves).worker.isRunning = true)
    (halts : ((begin source interpreter breakpoints).moved moves).Halts) :
    let chronicle := (begin source interpreter breakpoints).moved moves
    chronicle.legs = 0 ∧ ∃ stop, chronicle.lastStop? = some stop ∧
      stop.frames = chronicle.worker.debuggee.stack.locations ∧
      stop.location = chronicle.worker.debuggee.stack.location := by
  intro chronicle
  have watched : chronicle.Watched := moved_watched (watched_start (.start source interpreter) breakpoints) undisturbed
  have first : chronicle.legs = 0 := by
    cases legs : chronicle.legs with
    | zero => rfl
    | succ count => exact absurd halts (watched.passed running (by omega))
  obtain ⟨stop, last, frames⟩ := watched.shown (.inr ⟨running, first⟩)
  refine ⟨first, stop, last, frames, ?_⟩
  rw [Stop.location, frames, Stack.headD_locations]

/-- A program of two statements, and every condition holds. -/
def agreeing : Scripted where
  rules := [⟨"Filter(", .said "character(0)\nBrowse[1]> " ""⟩, ⟨"eval(", .said "[1] TRUE\nBrowse[1]> " ""⟩]
  replies := [.said "Browse[1]> " ""]
  ruledSteps := 0

/-- Runs to the second statement and looks at something there before it goes on. -/
def lookAround : List Move :=
  [.request (.run .resume), .leg, .request (.evaluate 1 "x"), .request (.run .next)]

theorem condition_not_run_over :
    let chronicle := (begin "x\ny" agreeing (Breakpoints.empty.addConditional (.inScript 2) "ready")).moved lookAround
    chronicle.worker.isRunning = true ∧ chronicle.Halts ∧ chronicle.legs = 0 ∧
      ∃ stop, chronicle.lastStop? = some stop ∧ stop.frames = chronicle.worker.debuggee.stack.locations ∧
        stop.location = chronicle.worker.debuggee.stack.location := by
  intro chronicle
  obtain ⟨running, found, affirmed⟩ : chronicle.worker.isRunning = true ∧
      chronicle.breakpoints.find? chronicle.worker.debuggee.stack.location = some ⟨.inScript 2, some "ready"⟩ ∧
      chronicle.arrival.any (·.affirms "ready") = true := by decide +kernel
  have halts : chronicle.Halts := by
    refine ⟨_, found, ?_⟩
    rintro condition ⟨⟩
    exact affirmed
  exact ⟨running, halts, breakpoint_not_run_over (undisturbed_of_unaltered (by simp [lookAround])) running halts⟩

end Chronicle
end RStepper
