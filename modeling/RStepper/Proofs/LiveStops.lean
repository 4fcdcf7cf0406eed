import Mathlib.Data.List.Induction
import RStepper.Proofs.BreakpointStops
import RStepper.Proofs.EventProtocol
import RStepper.Proofs.Exchanges
import RStepper.Proofs.FailedStep
import RStepper.Proofs.ScriptFeed
import RStepper.Proofs.StepIteration

/-! Where the program stands when a pause is reported. The frames that a report names have something left to run, so the
next step asks the interpreter something. One report is different: an error in the last statement of the script is a
pause too, and the program is over then. -/

namespace RStepper
variable {σ α : Type}

namespace Stack

theorem head?_locations (stack : Stack) : stack.locations.head? = some stack.location := by
  cases calls : stack.calls <;> simp [locations, location, calls]

theorem getLast?_locations (stack : Stack) : stack.locations.getLast? = some stack.script.location :=
  List.getLast?_concat

variable {source : String} {stack : Stack}

theorem Valid.isActive_of_hasNext (valid : stack.Valid source) (next : stack.hasNext = true) :
    ∀ frame ∈ stack.frames, frame.isActive = true := by
  intro frame member
  rcases List.mem_append.mp member with member | member
  · obtain ⟨call, inside, rfl⟩ := List.mem_map.mp member
    exact (valid.calls call inside).isActive
  · obtain rfl := List.mem_singleton.mp member
    cases calls : stack.calls with
    | nil => simpa [hasNext, calls, Frame.isActive] using next
    | cons top below => exact valid.calling (by simp [calls])

theorem Valid.line_ne_of_hasNext (valid : stack.Valid source) (next : stack.hasNext = true) :
    ∀ location ∈ stack.locations, location.line ≠ -1 := by
  intro location member
  rw [locations_eq] at member
  obtain ⟨frame, inside, rfl⟩ := List.mem_map.mp member
  have active := valid.isActive_of_hasNext next frame inside
  have ended : frame.location.line = -1 ↔ frame.isActive = false := by
    cases frame with
    | script script => exact Frame.location_noLine_script script
    | call call =>
      have inCalls : call ∈ stack.calls := by simpa [frames] using inside
      exact Frame.location_noLine_call (valid.calls call inCalls)
  simp [ended, active]

theorem Valid.ended (valid : stack.Valid source) (ended : stack.hasNext = false) :
    stack.calls = [] ∧ stack.locations = [⟨"<main>", -1⟩] ∧
      ∀ line ∈ (Script.linesOf source).drop stack.script.script.passed, Script.isIgnorable line = true := by
  cases calls : stack.calls with
  | nil =>
    have inactive : stack.script.isActive = false := by simpa [hasNext, calls] using ended
    have line : stack.script.line = none := by simpa [ScriptFrame.isActive] using inactive
    refine ⟨rfl, ?_, ?_⟩
    · simp [locations, calls, ScriptFrame.location, line, Location.inScript, Location.scriptName, Location.noLine]
    · have ignorable := (valid.settled calls).isActive_eq_false.mp inactive
      rwa [valid.reads.ahead] at ignorable
  | cons top below => simp [hasNext, calls, valid.top_active calls] at ended

end Stack

namespace Channel

/-- The interpreter was asked something from one channel to the other. -/
def Asks (before after : Channel σ) : Prop :=
  ∃ sending more, after.sendings = before.sendings ++ sending :: more

theorem Asks.grown {allowed : String → Prop} {first middle last : Channel σ} (begun : first.Asks middle)
    (ended : middle.Grows allowed last) : first.Asks last := by
  obtain ⟨sending, some, begun⟩ := begun
  obtain ⟨more, ended, _⟩ := ended
  exact ⟨sending, some ++ more, by rw [ended, begun, List.append_assoc, List.cons_append]⟩

end Channel

variable [Interpreter σ]

theorem CallFrame.advance_asks {top : CallFrame} (active : top.isActive = true) (channel : Channel σ) :
    channel.Asks ((advance : Act CallFrame σ Unit).runOver ⟨top, .none, channel⟩).2.channel := by
  have sent := Talk.sendings_execute stepCommand channel
  rw [runOver_advance active]
  rcases ran : (Talk.execute stepCommand).runOver channel with ⟨failure | response, asked⟩ <;> rw [ran] at sent
  · exact ⟨_, [], sent⟩
  · have begun : channel.Asks asked := ⟨_, [], sent⟩
    exact begun.grown (sends_follow .service response ⟨top, .none, asked⟩)

theorem Feeds.asks {position : Nat} {command : String} {ahead left : List String} {more : List Sending}
    (feeds : Feeds position command ahead more left) : ∃ sending rest, more = sending :: rest := by
  cases feeds <;> exact ⟨_, _, rfl⟩

theorem ScriptFrame.advance_asks {frame : ScriptFrame} (settled : frame.Settled) (active : frame.isActive = true)
    (channel : Channel σ) :
    channel.Asks ((advance : Act ScriptFrame σ Unit).runOver ⟨frame, .none, channel⟩).2.channel := by
  cases front : frame.script.ahead with
  | nil =>
    have inactive := settled.isActive_eq_false.mpr (by simp [front])
    rw [active] at inactive
    cases inactive
  | cons line rest =>
    obtain ⟨more, _, sent, feeds⟩ := advance_feeds settled.skipIgnorable front .none channel
    obtain ⟨first, rest, rfl⟩ := feeds.asks
    exact ⟨first, rest, sent⟩

namespace Debuggee

theorem advance_asks {source : String} {debuggee : Debuggee σ} (valid : debuggee.stack.Valid source)
    (next : debuggee.stack.hasNext = true) : debuggee.channel.Asks debuggee.advance.2.channel := by
  unfold advance
  rw [if_pos next]
  cases calls : debuggee.stack.calls with
  | nil =>
    have active : debuggee.stack.script.isActive = true := by simpa [Stack.hasNext, calls] using next
    change debuggee.channel.Asks debuggee.stepScript.2.channel
    rw [channel_stepScript]
    exact ScriptFrame.advance_asks (valid.settled calls) active debuggee.channel
  | cons top below =>
    change debuggee.channel.Asks (debuggee.stepCall top below).2.channel
    rw [channel_stepCall]
    exact CallFrame.advance_asks (valid.top_active calls) debuggee.channel

theorem calls_of_failed {source : String} {debuggee later : Debuggee σ} {failure : Failure}
    (valid : debuggee.stack.Valid source) (failed : debuggee.advance = (.error failure, later))
    (left : later.stack.calls = []) : debuggee.stack.calls = [] := by
  cases advance_cases failed with
  | scriptFails bottom => exact bottom
  | callFails calls _ stepped =>
    have depth := (stepCall_withstands valid calls stepped).depth
    simp [Stack.depth, calls, left] at depth

/-- The step met an error in the script, and no statement is left behind it. -/
structure EndsInError (source : String) (before after : Debuggee σ) (message : Option String) : Prop where
  calls : before.stack.calls = []
  fails : ∃ failure, before.advance = (.error failure, after) ∧ failure.isFatal = false ∧ message = some failure.message
  ended : ∀ line ∈ (Script.linesOf source).drop after.stack.script.script.passed, Script.isIgnorable line = true

end Debuggee

namespace Worker

theorem stack_leg (run : Run) (breakpoints : Breakpoints) (debuggee : Debuggee σ) :
    (leg run breakpoints debuggee).2.2.stack = debuggee.advance.2.stack := by
  rw [leg_eq]
  rcases debuggee.advance with ⟨_ | moves, moved⟩
  · rfl
  · dsimp only
    split
    · exact stack_stopsHere _ moved
    · rfl

theorem leg_asks {source : String} {debuggee : Debuggee σ} (valid : debuggee.stack.Valid source)
    (next : debuggee.stack.hasNext = true) (run : Run) (breakpoints : Breakpoints) :
    debuggee.channel.Asks (leg run breakpoints debuggee).2.2.channel := by
  have asks := debuggee.advance_asks valid next
  rw [leg_eq]
  rcases ran : debuggee.advance with ⟨_ | moves, moved⟩ <;> rw [ran] at asks
  · exact asks
  · dsimp only
    split
    · exact asks.grown (carries_sendings.stopsHere _ moved)
    · exact asks

theorem leg_ended {debuggee : Debuggee σ} (ended : debuggee.stack.hasNext = false) (run : Run) (breakpoints : Breakpoints) :
    leg run breakpoints debuggee = (.ok .finished, breakpoints, debuggee) := by
  have rests : debuggee.advance = (.ok false, debuggee) := by
    unfold Debuggee.advance
    rw [ended, if_neg Bool.false_ne_true]
  rw [leg_eq, rests]
  rfl

theorem hasNext_of_arrived {run : Run} {breakpoints left : Breakpoints} {debuggee moved : Debuggee σ} {reason : StopReason}
    (ran : leg run breakpoints debuggee = (.ok (.arrived reason), left, moved)) : moved.stack.hasNext = true := by
  have stack := stack_leg run breakpoints debuggee
  rw [ran] at stack
  rw [leg_eq] at ran
  rcases advanced : debuggee.advance with ⟨_ | moves, behind⟩ <;> rw [advanced] at ran stack
  · cases ran
  · dsimp only at ran stack
    split at ran
    next goes =>
      rw [stack]
      exact (Bool.and_eq_true_iff.mp goes).2
    next => cases ran

/-- An error leaves something to run, unless it was the script's own and its last statement. -/
theorem hasNext_of_failed {source : String} {run : Run} {breakpoints left : Breakpoints} {debuggee moved : Debuggee σ}
    {failure : Failure} (valid : debuggee.stack.Valid source) (harmless : failure.isFatal = false)
    (ran : leg run breakpoints debuggee = (.error failure, left, moved)) :
    moved.stack.hasNext = true ∨ debuggee.EndsInError source moved (some failure.message) := by
  cases next : moved.stack.hasNext with
  | true => exact .inl rfl
  | false =>
    have stack := stack_leg run breakpoints debuggee
    have kept : debuggee.advance.2.stack.Valid source := Debuggee.advance_valid valid
    rw [ran] at stack
    rw [leg_eq] at ran
    rcases advanced : debuggee.advance with ⟨error | moves, behind⟩ <;> rw [advanced] at ran stack kept
    · cases ran
      refine .inr ⟨debuggee.calls_of_failed valid advanced (kept.ended next).1, ⟨failure, advanced, harmless, rfl⟩, ?_⟩
      exact (kept.ended next).2.2
    · dsimp only at ran stack
      split at ran
      next goes =>
        have goes := (Bool.and_eq_true_iff.mp goes).2
        rw [← stack, next] at goes
        cases goes
      next => cases ran

theorem endReport_unstopped (stopping : Bool) (failure : Failure) (stop : Stop) :
    endReport stopping failure ≠ .stopped stop := by
  unfold endReport
  split <;> exact nofun

omit [Interpreter σ] in
theorem answer_unstopped (stopping : Bool) {report : Except String α → Event} (outcome : Except Failure α × Debuggee σ)
    (silent : ∀ value stop, report value ≠ .stopped stop) (stop : Stop) :
    .stopped stop ∉ (answer stopping report outcome).1 := by
  have answers := answer_answers stopping report outcome
  generalize answer stopping report outcome = answered at answers ⊢
  cases answers with
  | tells | regrets => simpa using (silent _ stop).symm
  | fails => simpa using ⟨(silent _ stop).symm, (endReport_unstopped stopping _ stop).symm⟩
  | stalls => simp

theorem into_asks {source : String} {worker : Worker σ} (idle : worker.activity = .idle)
    (valid : worker.debuggee.stack.Valid source) (next : worker.debuggee.stack.hasNext = true) (stopping : Bool)
    (breakpoints : Breakpoints) :
    worker.debuggee.channel.Asks (worker.perform stopping breakpoints (.run .into)).worker.debuggee.channel := by
  obtain ⟨debuggee, activity⟩ := worker
  cases idle
  rw [perform_single, step_debuggee]
  exact leg_asks valid next _ _

/-- A step into a program that is over asks nothing and ends the session. -/
theorem into_ends {worker : Worker σ} (idle : worker.activity = .idle) (ended : worker.debuggee.stack.hasNext = false)
    (stopping : Bool) (breakpoints : Breakpoints) :
    let turn := worker.perform stopping breakpoints (.run .into)
    turn.events = [.terminated] ∧ turn.worker.debuggee.channel = worker.debuggee.channel := by
  obtain ⟨debuggee, activity⟩ := worker
  cases idle
  rw [perform_single]
  simp only [step, leg_ended ended, and_self]

theorem take_unstopped (stopping : Bool) (breakpoints : Breakpoints) (request : Request) (debuggee : Debuggee σ)
    (stop : Stop) : .stopped stop ∉ (take stopping breakpoints request debuggee).events := by
  cases request with
  | run | runTo | stop => exact List.not_mem_nil
  | _ => exact answer_unstopped stopping _ (by simp) stop

end Worker

omit [Interpreter σ] in
theorem Inspected.unstopped {answer : Except String α → Event} {outcome : Except Failure α} {reports : List Report}
    (inspected : Inspected answer outcome reports) (silent : ∀ value stop, answer value ≠ .stopped stop) (stop : Stop) :
    ∀ report ∈ reports, report.event ≠ .stopped stop := by
  cases inspected with
  | value | harmless => simpa using silent _ stop
  | fatal =>
    have closing (isStopping : Bool) (message : String) :
        (if isStopping then Event.terminated else .failed message) ≠ .stopped stop := by
      split <;> exact nofun
    simpa using ⟨silent _ stop, closing _ _⟩

theorem Account.IsSettled.unstopped {account : Account σ} (settled : account.IsSettled)
    (ends : ∃ report ∈ account.reports, report.event.EndsSession) (stop : Stop) :
    ∀ report ∈ account.reports, report.event ≠ .stopped stop := by
  have run (single : ∃ report, account.reports = [report] ∧ report.event.EndsRun ∧ report.Calm) :
      ∀ report ∈ account.reports, report.event ≠ .stopped stop := by
    obtain ⟨only, reports, _, _⟩ := single
    rw [reports] at ends ⊢
    obtain ⟨_, member, ends⟩ := ends
    obtain rfl := List.mem_singleton.mp member
    rintro report inside same
    obtain rfl := List.mem_singleton.mp inside
    rw [same] at ends
    exact ends
  unfold IsSettled at settled
  split at settled
  · exact run settled
  · exact run settled
  · exact settled.unstopped (by simp) stop
  · exact settled.unstopped (by simp) stop
  · simp [settled]

theorem Present.unstopped {withheld : List Event} {accounts : List (Account σ)}
    (present : Present (.stalled withheld) accounts) (stop : Stop) : .stopped stop ∉ withheld := by
  cases present with
  | stalls asked silent settles ends =>
    intro member
    exact settles.unstopped (ends.resolve_left asked) stop ⟨.stopped stop, true⟩ (List.mem_map_of_mem member) rfl

namespace Chronicle

/-- The worker has just reported a pause and waits there for a request. -/
structure PausesAt (chronicle : Chronicle σ) (stop : Stop) : Prop where
  idle : chronicle.worker.activity = .idle
  last : chronicle.events.getLast? = some (.stopped stop)
  frames : stop.frames = chronicle.worker.debuggee.stack.locations

theorem move_valid {source : String} {chronicle : Chronicle σ} (move : Move)
    (valid : chronicle.worker.debuggee.stack.Valid source) :
    (chronicle.move move).worker.debuggee.stack.Valid source := by
  cases move with
  | request request =>
    cases activity : chronicle.worker.activity with
    | running | stalled | ended => simpa [Chronicle.move, activity] using valid
    | idle =>
      rw [move_request activity]
      change (Worker.take _ _ request chronicle.worker.debuggee).worker.debuggee.stack.Valid source
      cases request with
      | run | runTo | stop => exact valid
      | _ =>
        dsimp only [Worker.take]
        rw [Worker.answer_debuggee]
        exact valid
  | leg =>
    cases activity : chronicle.worker.activity with
    | idle | stalled | ended => simpa [Chronicle.move, activity] using valid
    | running run =>
      rw [move_leg activity]
      change (Worker.step _ run _ chronicle.worker.debuggee).worker.debuggee.stack.Valid source
      rw [Worker.step_debuggee, Worker.stack_leg]
      exact Debuggee.advance_valid valid
  | alter | shutdown => exact valid
  | release =>
    unfold Chronicle.move
    dsimp only
    split
    · cases activity : chronicle.worker.activity <;> simpa [Worker.release, behind, activity] using valid
    · exact valid

theorem moved_valid (source : String) (interpreter : σ) (breakpoints : Breakpoints) (moves : List Move) :
    ((begin source interpreter breakpoints).moved moves).worker.debuggee.stack.Valid source := by
  refine moved_induction (motive := fun chronicle => chronicle.worker.debuggee.stack.Valid source) ?_
    (fun _ => move_valid) moves
  unfold begin Worker.start
  split <;> exact .ofSource source

theorem leg_stops {source : String} {chronicle : Chronicle σ} {run : Run} {stop : Stop} (consistent : chronicle.Consistent)
    (valid : chronicle.worker.debuggee.stack.Valid source) (activity : chronicle.worker.activity = .running run)
    (reported : .stopped stop ∈ (chronicle.move .leg).events) :
    .stopped stop ∈ chronicle.events ∨ (chronicle.move .leg).PausesAt stop ∧
      ((chronicle.move .leg).worker.debuggee.stack.hasNext = true ∨ stop.reason = .exception ∧
        chronicle.worker.debuggee.EndsInError source (chronicle.move .leg).worker.debuggee stop.message) := by
  obtain ⟨newest, older, accounts, _⟩ := (activity ▸ consistent.present).of_running
  have asked : chronicle.accounts ≠ [] := by simp [accounts]
  have turns := Worker.step_turns chronicle.isStopping run chronicle.breakpoints chronicle.worker.debuggee
  rw [move_leg activity] at reported ⊢
  generalize Worker.step chronicle.isStopping run chronicle.breakpoints chronicle.worker.debuggee = turn at turns reported ⊢
  have told : .stopped stop ∈ (chronicle.behind turn).events := reported
  rw [events_behind _ asked] at told
  rcases List.mem_append.mp told with old | new
  · exact .inl old
  rcases ran : Worker.leg run chronicle.breakpoints chronicle.worker.debuggee with ⟨outcome, left, moved⟩
  rw [ran] at turns
  have paused (stop : Stop) (frames : stop.frames = moved.stack.locations) (breakpoints : Breakpoints) :
      PausesAt (behind { chronicle with
        legs := chronicle.legs + 1
        arrival := moved.channel.sendings.getLast? } ⟨[.stopped stop], breakpoints, ⟨moved, .idle⟩⟩) stop :=
    ⟨rfl, (congrArg List.getLast? (events_behind _ asked)).trans List.getLast?_concat, frames⟩
  -- Two ways that a leg ends report a pause: it arrives, or an error of the program interrupts the run.
  cases turns with
  | goesOn | stalls => simp at new
  | finishes => simp at new
  | fails => exact (Worker.endReport_unstopped _ _ _ (List.mem_singleton.mp new).symm).elim
  | arrives =>
    cases List.mem_singleton.mp new
    exact .inr ⟨paused _ rfl _, .inl (Worker.hasNext_of_arrived ran)⟩
  | interrupts harmless =>
    cases List.mem_singleton.mp new
    refine .inr ⟨paused _ rfl _, ?_⟩
    exact (Worker.hasNext_of_failed valid harmless ran).imp id fun ended => ⟨rfl, ended⟩

theorem release_unstopped {chronicle : Chronicle σ} {stop : Stop} (consistent : chronicle.Consistent)
    (reported : .stopped stop ∈ (chronicle.move .release).events) : .stopped stop ∈ chronicle.events := by
  unfold Chronicle.move at reported
  dsimp only at reported
  split at reported
  next =>
    cases activity : chronicle.worker.activity with
    | idle | running | ended => simpa [Worker.release, behind, activity] using reported
    | stalled withheld =>
      have present : Present (.stalled withheld) chronicle.accounts := activity ▸ consistent.present
      have asked : chronicle.accounts ≠ [] := by
        intro none
        rw [none] at present
        cases present
      simp only [Worker.release, activity] at reported
      rw [events_behind _ asked] at reported
      exact (List.mem_append.mp reported).resolve_right (present.unstopped stop)
  next => exact reported

theorem move_stops {source : String} {chronicle : Chronicle σ} {stop : Stop} (consistent : chronicle.Consistent)
    (valid : chronicle.worker.debuggee.stack.Valid source) (move : Move)
    (reported : .stopped stop ∈ (chronicle.move move).events) :
    .stopped stop ∈ chronicle.events ∨ move = .leg ∧ (chronicle.move .leg).PausesAt stop ∧
      ((chronicle.move .leg).worker.debuggee.stack.hasNext = true ∨ stop.reason = .exception ∧
        chronicle.worker.debuggee.EndsInError source (chronicle.move .leg).worker.debuggee stop.message) := by
  cases move with
  | request request =>
    cases activity : chronicle.worker.activity with
    | running | stalled | ended => exact .inl (by simpa [Chronicle.move, activity] using reported)
    | idle =>
      rw [move_request activity, events_behind _ (List.cons_ne_nil _ _)] at reported
      rcases List.mem_append.mp reported with old | new
      · exact .inl (by simpa [events] using old)
      · exact (Worker.take_unstopped _ _ _ _ stop new).elim
  | leg =>
    cases activity : chronicle.worker.activity with
    | idle | stalled | ended => exact .inl (by simpa [Chronicle.move, activity] using reported)
    | running => exact (leg_stops consistent valid activity reported).imp_right (⟨rfl, ·⟩)
  | alter | shutdown => exact .inl reported
  | release => exact .inl (release_unstopped consistent reported)

theorem paused_at (source : String) (interpreter : σ) (breakpoints : Breakpoints) (moves : List Move) {stop : Stop}
    (reported : .stopped stop ∈ ((begin source interpreter breakpoints).moved moves).events) :
    ∃ before after, moves = before ++ after ∧
      let there := (begin source interpreter breakpoints).moved before
      there.PausesAt stop ∧ (there.worker.debuggee.stack.hasNext = true ∨
        stop.reason = .exception ∧ ∃ earlier, before = earlier ++ [.leg] ∧
          ((begin source interpreter breakpoints).moved earlier).worker.debuggee.EndsInError source
            there.worker.debuggee stop.message) := by
  induction moves using List.reverseRecOn with
  | nil =>
    refine ⟨[], [], rfl, ?_⟩
    change Event.stopped stop ∈ (begin source interpreter breakpoints).events at reported
    change (begin source interpreter breakpoints).PausesAt stop ∧ _
    unfold begin Worker.start at reported ⊢
    dsimp only at reported ⊢
    split at reported
    next next =>
      rw [if_pos next]
      cases List.mem_singleton.mp reported
      exact ⟨⟨rfl, rfl, rfl⟩, .inl next⟩
    next =>
      cases List.mem_singleton.mp reported
  | append_singleton moves move ih =>
    have split : (begin source interpreter breakpoints).moved (moves ++ [move]) =
        ((begin source interpreter breakpoints).moved moves).move move := by
      rw [moved, List.foldl_append]
      rfl
    rw [split] at reported
    rcases move_stops (moved_consistent ..) (moved_valid ..) move reported with old | ⟨rfl, paused, cause⟩
    · obtain ⟨before, after, rfl, paused⟩ := ih old
      exact ⟨before, after ++ [move], (List.append_assoc ..), paused⟩
    · refine ⟨moves ++ [.leg], [], (List.append_nil _).symm, ?_⟩
      dsimp only
      rw [split]
      exact ⟨paused, cause.imp id fun failed => ⟨failed.1, moves, rfl, failed.2⟩⟩

/-- A pause is reported with the frames that the program stands in, the innermost first and the script last, and all
of them have something left to run, as the next step shows. The exception is an error in the last statement of the
script: what is reported then is a script that is over, and the next step finds nothing to do. -/
theorem stops_live (source : String) (interpreter : σ) (breakpoints : Breakpoints) (moves : List Move) {stop : Stop}
    (reported : .stopped stop ∈ ((begin source interpreter breakpoints).moved moves).events) :
    stop.frames.head? = some stop.location ∧ (∃ line, stop.frames.getLast? = some ⟨"<main>", line⟩) ∧
      ∃ before after, moves = before ++ after ∧
        let there := (begin source interpreter breakpoints).moved before
        let into isStopping points := there.worker.perform isStopping points (.run .into)
        there.PausesAt stop ∧
          ((∀ location ∈ stop.frames, location.line ≠ -1) ∧
              (∀ isStopping points, there.worker.debuggee.channel.Asks (into isStopping points).worker.debuggee.channel) ∨
            stop.reason = .exception ∧ stop.frames = [⟨"<main>", -1⟩] ∧
              (∃ earlier, before = earlier ++ [.leg] ∧
                ((begin source interpreter breakpoints).moved earlier).worker.debuggee.EndsInError source
                  there.worker.debuggee stop.message) ∧
              ∀ isStopping points, (into isStopping points).events = [.terminated] ∧
                (into isStopping points).worker.debuggee.channel = there.worker.debuggee.channel) := by
  obtain ⟨before, after, split, paused, cause⟩ := paused_at source interpreter breakpoints moves reported
  have valid := moved_valid source interpreter breakpoints before
  have frames := paused.frames
  refine ⟨?_, ?_, before, after, split, paused, ?_⟩
  · rw [Stop.location, frames, Stack.head?_locations, Stack.headD_locations]
  · rw [frames, Stack.getLast?_locations]
    exact ⟨_, rfl⟩
  -- With something left in the innermost frame every frame is active; with nothing left only the script's frame stands.
  cases next : ((begin source interpreter breakpoints).moved before).worker.debuggee.stack.hasNext with
  | true =>
    refine .inl ⟨?_, fun isStopping points => Worker.into_asks paused.idle valid next isStopping points⟩
    rw [frames]
    exact valid.line_ne_of_hasNext next
  | false =>
    obtain going | ⟨reason, ended⟩ := cause
    · rw [next] at going
      cases going
    · refine .inr ⟨reason, frames.trans (valid.ended next).2.1, ended, fun isStopping points => ?_⟩
      exact Worker.into_ends paused.idle next isStopping points

/-- The first statement fails. -/
def failing : Scripted where
  rules := []
  replies := [.said "Browse[1]> " "Error: boom\n"]
  ruledSteps := 0

def stepInto : List Move :=
  [.request (.run .into), .leg]

omit [Interpreter σ] in
theorem mem_of_stops {chronicle : Chronicle σ} {stop : Stop} (told : stop ∈ chronicle.events.filterMap stop?) :
    .stopped stop ∈ chronicle.events := by
  obtain ⟨event, member, same⟩ := List.mem_filterMap.mp told
  cases event with
  | stopped => exact Option.some.inj same ▸ member
  | _ => cases same

/-- The error of a statement that another one follows. -/
theorem firstError_live :
    let stop : Stop := ⟨.exception, [⟨"<main>", 2⟩], some "interpreter failed while running `x`: Error: boom"⟩
    .stopped stop ∈ ((begin "x\ny" failing .empty).moved stepInto).events ∧
      ∃ before after, stepInto = before ++ after ∧
        let there := (begin "x\ny" failing .empty).moved before
        there.PausesAt stop ∧ ∀ isStopping points,
          there.worker.debuggee.channel.Asks (there.worker.perform isStopping points (.run .into)).worker.debuggee.channel := by
  intro stop
  have reported : .stopped stop ∈ ((begin "x\ny" failing .empty).moved stepInto).events :=
    mem_of_stops (by decide +kernel)
  obtain ⟨_, _, before, after, split, paused, live | ⟨_, ended, _⟩⟩ := stops_live _ _ _ _ reported
  · exact ⟨reported, before, after, split, paused, live.2⟩
  · exact absurd ended (by decide)

/-- The error of the last statement is reported as a pause of a script that is over. -/
theorem lastError_over :
    let chronicle := (begin "x" failing .empty).moved stepInto
    .stopped ⟨.exception, [⟨"<main>", -1⟩], some "interpreter failed while running `x`: Error: boom"⟩ ∈ chronicle.events ∧
      (chronicle.worker.perform false .empty (.run .into)).worker.debuggee.channel.sendings =
        chronicle.worker.debuggee.channel.sendings := by
  intro chronicle
  exact ⟨mem_of_stops (by decide +kernel), by decide +kernel⟩

end Chronicle
end RStepper
