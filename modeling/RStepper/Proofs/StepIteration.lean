import RStepper.Proofs.WorkerTurn

/-! A run in any mode is a series of single steps that ends with the first one at which the mode stops.
The mode itself decides nothing but whether a pause without a breakpoint is passed by. -/

namespace RStepper
variable {σ : Type} [Interpreter σ]

/-- The turn ended at a step that a run of this mode, begun at this depth, does not stop at. -/
def Turn.PassedBy (turn : Turn σ) (mode : RunMode) (start : Nat) : Prop :=
  ∃ stop : Stop, turn.events = [.stopped stop] ∧ stop.reason = .step ∧ mode.stopsAt start stop.frames.length = false

namespace Worker

/-- A leg that would end at a step goes on if the run's mode does not stop there. -/
def passing (run : Run) (ended : Except Failure Leg × Breakpoints × Debuggee σ) :
    Except Failure Leg × Breakpoints × Debuggee σ :=
  match ended with
  | (.ok (.arrived .step), left, moved) =>
    if run.mode.stopsAt run.start moved.stack.depth then ended else (.ok .goOn, left, moved)
  | _ => ended

/-- A leg in any mode is the leg of a single step with the mode's own question behind it. -/
theorem leg_eq_passing (run single : Run) (isSingle : single.mode = .into) (breakpoints : Breakpoints)
    (debuggee : Debuggee σ) : leg run breakpoints debuggee = passing run (leg single breakpoints debuggee) := by
  rcases advanced : debuggee.advance with ⟨failure | moves, moved⟩
  · simp only [leg, advanced, passing]
  cases goes : moves && moved.stack.hasNext with
  | false => simp only [leg, advanced, goes, Bool.false_eq_true, if_false, passing]
  | true =>
    rcases found : breakpoints.hit moved.stack.location with ⟨hit, left⟩
    rcases stops : stopsHere hit moved with ⟨failure | _ | _, asked⟩
    · simp only [leg, advanced, goes, found, stops, if_true, passing]
    · simp only [leg, advanced, goes, found, stops, if_true, isSingle, RunMode.stopsAt, passing]
    · simp only [leg, advanced, goes, found, stops, if_true, passing]

theorem leg_single_ne_goOn {single : Run} (isSingle : single.mode = .into) {breakpoints left : Breakpoints}
    {debuggee moved : Debuggee σ} : leg single breakpoints debuggee ≠ (.ok .goOn, left, moved) := by
  intro goes
  obtain ⟨_, _, _, _, _, _, stays⟩ := leg_goOn goes
  simp [isSingle, RunMode.stopsAt] at stays

theorem leg_single_of_goOn {run : Run} (single : Run) (isSingle : single.mode = .into) {breakpoints left : Breakpoints}
    {debuggee moved : Debuggee σ} (goes : leg run breakpoints debuggee = (.ok .goOn, left, moved)) :
    leg single breakpoints debuggee = (.ok (.arrived .step), left, moved) ∧
      run.mode.stopsAt run.start moved.stack.depth = false := by
  rw [leg_eq_passing run single isSingle] at goes
  unfold passing at goes
  split at goes
  next behind arrived ended =>
    split at goes
    · exact absurd (ended.symm.trans goes) nofun
    next passes =>
      cases goes
      exact ⟨ended, by simpa using passes⟩
  · exact absurd goes (leg_single_ne_goOn isSingle)

theorem leg_eq_single {run : Run} (single : Run) (isSingle : single.mode = .into) {breakpoints : Breakpoints}
    {debuggee : Debuggee σ} (ends : ∀ left moved, leg run breakpoints debuggee ≠ (.ok .goOn, left, moved)) :
    leg run breakpoints debuggee = leg single breakpoints debuggee := by
  have same := leg_eq_passing run single isSingle breakpoints debuggee
  unfold passing at same
  split at same
  next left moved ended =>
    split at same
    · exact same
    · exact absurd same (ends left moved)
  · exact same

/-- Behind the same leg, runs that have no target do the same, unless they go on. -/
theorem step_congr {stopping : Bool} {run single : Run} {breakpoints : Breakpoints} {debuggee : Debuggee σ}
    (free : run.hasTarget = false) (alone : single.hasTarget = false)
    (same : leg run breakpoints debuggee = leg single breakpoints debuggee)
    (ends : ∀ left moved, leg run breakpoints debuggee ≠ (.ok .goOn, left, moved)) :
    step stopping run breakpoints debuggee = step stopping single breakpoints debuggee := by
  rcases ran : leg single breakpoints debuggee with ⟨failure | (_ | reason | _), left, moved⟩
  · simp only [step, same, ran, Run.leave, free, alone]
  · exact absurd (same.trans ran) (ends left moved)
  · simp only [step, same, ran, Run.leave, free, alone]
  · simp only [step, same, ran, Run.leave, free, alone]

theorem passedBy_step {stopping : Bool} {run : Run} {breakpoints : Breakpoints} {debuggee : Debuggee σ}
    {mode : RunMode} {start : Nat} (passed : (step stopping run breakpoints debuggee).PassedBy mode start) :
    ∃ left moved, leg run breakpoints debuggee = (.ok (.arrived .step), left, moved) ∧
      mode.stopsAt start moved.stack.depth = false := by
  obtain ⟨stop, events, reason, passes⟩ := passed
  have turns := step_turns stopping run breakpoints debuggee
  generalize leg run breakpoints debuggee = ended at turns ⊢
  generalize step stopping run breakpoints debuggee = turn at turns events
  cases turns with
  | goesOn | stalls | finishes => cases events
  | interrupts =>
    cases events
    cases reason
  | fails =>
    unfold endReport at events
    split at events <;> cases events
  | arrives =>
    cases events
    cases reason
    refine ⟨_, _, rfl, ?_⟩
    rw [← Stack.length_locations]
    exact passes

theorem settle_goOn {stopping : Bool} {run : Run} {breakpoints left : Breakpoints} {debuggee moved : Debuggee σ}
    (ran : leg run breakpoints debuggee = (.ok .goOn, left, moved)) :
    settle stopping breakpoints ⟨debuggee, .running run⟩ = settle stopping left ⟨moved, .running run⟩ := by
  rw [settle]
  simp [step, ran, isRunning]

theorem settle_over {stopping : Bool} {run : Run} {breakpoints : Breakpoints} {debuggee : Debuggee σ}
    (ends : ∀ left moved, leg run breakpoints debuggee ≠ (.ok .goOn, left, moved)) :
    settle stopping breakpoints ⟨debuggee, .running run⟩ = step stopping run breakpoints debuggee := by
  have resting : (step stopping run breakpoints debuggee).worker.isRunning = false := by
    have turns := step_turns stopping run breakpoints debuggee
    generalize leg run breakpoints debuggee = ended at turns ends
    generalize step stopping run breakpoints debuggee = turn at turns ⊢
    cases turns with
    | goesOn => exact absurd rfl (ends _ _)
    | arrives | interrupts | finishes | fails | stalls => rfl
  rw [settle]
  simp [resting]

theorem perform_single (stopping : Bool) (breakpoints : Breakpoints) (debuggee : Debuggee σ) :
    perform stopping breakpoints (.run .into) ⟨debuggee, .idle⟩ =
      step stopping ⟨.into, debuggee.stack.depth, false⟩ breakpoints debuggee := by
  let single : Run := ⟨.into, debuggee.stack.depth, false⟩
  have settled : settle stopping breakpoints ⟨debuggee, .running single⟩ = step stopping single breakpoints debuggee :=
    settle_over fun _ _ => leg_single_ne_goOn rfl
  simp only [perform, take, single, settled, List.nil_append]

/-- The turn of single step number `count`, counted from zero, when each one goes on where the one before
it ended. -/
def singleStep (stopping : Bool) (breakpoints : Breakpoints) (worker : Worker σ) : Nat → Turn σ
  | 0 => perform stopping breakpoints (.run .into) worker
  | count + 1 =>
    let first := perform stopping breakpoints (.run .into) worker
    singleStep stopping first.breakpoints first.worker count

/-- A run without a target of its own ends in the turn of the first single step that is not passed by. -/
theorem settle_eq_singleStep (stopping : Bool) {run : Run} (free : run.hasTarget = false) (breakpoints : Breakpoints)
    (debuggee : Debuggee σ) :
    ∃ count, (∀ earlier < count, (singleStep stopping breakpoints ⟨debuggee, .idle⟩ earlier).PassedBy run.mode run.start) ∧
      ¬ (singleStep stopping breakpoints ⟨debuggee, .idle⟩ count).PassedBy run.mode run.start ∧
      settle stopping breakpoints ⟨debuggee, .running run⟩ = singleStep stopping breakpoints ⟨debuggee, .idle⟩ count := by
  let single : Run := ⟨.into, debuggee.stack.depth, false⟩
  have first : perform stopping breakpoints (.run .into) ⟨debuggee, .idle⟩ = step stopping single breakpoints debuggee :=
    perform_single stopping breakpoints debuggee
  by_cases goes : ∃ left moved, leg run breakpoints debuggee = (.ok .goOn, left, moved)
  · obtain ⟨left, moved, goes⟩ := goes
    have fewer : moved.stepsLeft < debuggee.stepsLeft := stepsLeft_leg_lt goes
    obtain ⟨stepped, passes⟩ := leg_single_of_goOn single rfl goes
    have turn : perform stopping breakpoints (.run .into) ⟨debuggee, .idle⟩ =
        ⟨[moved.stack.stop .step none], left, ⟨moved, .idle⟩⟩ := by
      rw [first]
      simp [step, stepped, Run.leave, single]
    obtain ⟨count, passed, halts, ends⟩ := settle_eq_singleStep stopping free left moved
    have behind (index : Nat) : singleStep stopping breakpoints ⟨debuggee, .idle⟩ (index + 1) =
        singleStep stopping left ⟨moved, .idle⟩ index := by
      simp only [singleStep, turn]
    refine ⟨count + 1, ?_, ?_, ?_⟩
    · intro earlier inside
      cases earlier with
      | zero =>
        simp only [singleStep, turn]
        exact ⟨_, rfl, rfl, by rw [Stack.length_locations]; exact passes⟩
      | succ earlier =>
        rw [behind]
        exact passed earlier (by omega)
    · rw [behind]
      exact halts
    · rw [behind, settle_goOn goes]
      exact ends
  · have ends (left : Breakpoints) (moved : Debuggee σ) : leg run breakpoints debuggee ≠ (.ok .goOn, left, moved) :=
      fun ran => goes ⟨left, moved, ran⟩
    have same := leg_eq_single single rfl ends
    refine ⟨0, by simp, ?_, ?_⟩
    · intro passed
      rw [singleStep, first] at passed
      obtain ⟨left, moved, stepped, passes⟩ := passedBy_step passed
      apply ends left moved
      rw [leg_eq_passing run single rfl, stepped]
      simp [passing, passes]
    · rw [settle_over ends, singleStep, first]
      exact step_congr free rfl same ends
termination_by debuggee.stepsLeft

theorem singleStep_events_cases (stopping : Bool) (breakpoints : Breakpoints) (worker : Worker σ) (count : Nat) :
    (singleStep stopping breakpoints worker count).events = [] ∨
      ∃ event : Event, (singleStep stopping breakpoints worker count).events = [event] ∧ event.EndsRun := by
  induction count generalizing breakpoints worker with
  | zero =>
    obtain ⟨debuggee, activity⟩ := worker
    cases activity with
    | idle =>
      rw [singleStep, perform_single]
      exact (step_turns ..).events_cases
    | running | stalled | ended => exact .inl rfl
  | succ count ih => exact ih _ _

/-- A run in any mode does what single steps do, one behind the other, up to the first one that ends in
anything but a step or in a step that the mode stops at. It ends in the same turn: with the same
reports, breakpoints, frames, commands and records. -/
theorem run_eq_singleSteps (stopping : Bool) (breakpoints : Breakpoints) (mode : RunMode) (worker : Worker σ) :
    let start := worker.debuggee.stack.depth
    let turn := perform stopping breakpoints (.run mode) worker
    (∃ count, (∀ earlier < count, (singleStep stopping breakpoints worker earlier).PassedBy mode start) ∧
      ¬ (singleStep stopping breakpoints worker count).PassedBy mode start ∧
      turn = singleStep stopping breakpoints worker count) ∧
    (∀ stop, .stopped stop ∈ turn.events → stop.reason = .step →
      (mode = .next → stop.frames.length ≤ start) ∧ (mode = .out → stop.frames.length < start)) ∧
    (mode = .resume → ∀ event ∈ turn.events,
      (∃ stop, event = .stopped stop ∧ (stop.reason = .breakpoint ∨ stop.reason = .exception)) ∨
      event = .terminated ∨ ∃ message, event = .failed message) := by
  intro start turn
  have series : ∃ count, (∀ earlier < count, (singleStep stopping breakpoints worker earlier).PassedBy mode start) ∧
      ¬ (singleStep stopping breakpoints worker count).PassedBy mode start ∧
      turn = singleStep stopping breakpoints worker count := by
    obtain ⟨debuggee, activity⟩ := worker
    cases activity with
    | idle =>
      let run : Run := ⟨mode, start, false⟩
      have free : run.hasTarget = false := rfl
      have begun : turn = settle stopping breakpoints ⟨debuggee, .running run⟩ := by
        simp [turn, start, run, perform, take]
      rw [begun]
      exact settle_eq_singleStep stopping free breakpoints debuggee
    | running | stalled | ended => exact ⟨0, by simp, by rintro ⟨stop, ⟨⟩, _⟩, rfl⟩
  obtain ⟨count, passed, halts, ends⟩ := series
  have last (event : Event) (member : event ∈ turn.events) : turn.events = [event] ∧ event.EndsRun := by
    rw [ends] at member ⊢
    rcases singleStep_events_cases stopping breakpoints worker count with none | ⟨only, single, endsRun⟩
    · simp [none] at member
    · rw [single, List.mem_singleton] at member
      subst member
      exact ⟨single, endsRun⟩
  have stops (stop : Stop) (member : .stopped stop ∈ turn.events) (reason : stop.reason = .step) :
      mode.stopsAt start stop.frames.length = true := by
    cases passes : mode.stopsAt start stop.frames.length with
    | true => rfl
    | false => exact absurd ⟨stop, ends ▸ (last _ member).1, reason, passes⟩ halts
  refine ⟨⟨count, passed, halts, ends⟩, ?_, ?_⟩
  · intro stop member reason
    have here := stops stop member reason
    constructor
    · rintro rfl
      simpa [RunMode.stopsAt] using here
    · rintro rfl
      simpa [RunMode.stopsAt] using here
  · rintro rfl event member
    have endsRun := (last event member).2
    cases event with
    | stopped stop =>
      refine .inl ⟨stop, rfl, ?_⟩
      cases reason : stop.reason with
      | entry => exact absurd reason endsRun
      | step => simpa [RunMode.stopsAt] using stops stop member reason
      | breakpoint => exact .inl rfl
      | exception => exact .inr rfl
    | terminated => exact .inr (.inl rfl)
    | failed message => exact .inr (.inr ⟨message, rfl⟩)
    | _ => exact endsRun.elim

end Worker
end RStepper
