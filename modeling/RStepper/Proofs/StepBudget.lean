import RStepper.Proofs.AnsweredCommands
import RStepper.Proofs.EventProtocol

/-! A run comes to its end. Every leg that the run goes on from takes a step's answer or a line of the
script, and with an interpreter that never blocks the last leg is followed by a report: the worker then waits
for its next request or has ended. What comes between the legs makes no difference. -/

namespace RStepper
variable {σ α : Type} [Interpreter σ]
open Interpreter

theorem Debuggee.AdvancesAtMost.answered {before later : Debuggee σ} {count : Nat}
    (bounded : before.AdvancesAtMost count) (answered : before.channel.Answered later.channel)
    (same : later.stack = before.stack) : later.AdvancesAtMost count := by
  obtain ⟨answers, answering, within⟩ := bounded
  obtain ⟨rest, fewer, left⟩ := answered.atMost answering
  exact ⟨rest, left, by rw [same]; omega⟩

namespace Worker

/-- A leg that the run goes on from makes less of what is left. -/
theorem leg_spends {run : Run} {breakpoints left : Breakpoints} {debuggee moved : Debuggee σ} {count : Nat}
    (ran : leg run breakpoints debuggee = (.ok .goOn, left, moved)) (bounded : debuggee.AdvancesAtMost count) :
    ∃ rest < count, moved.AdvancesAtMost rest := by
  obtain ⟨stepped, hit, advanced, hasNext, _, passed, _⟩ := leg_goOn ran
  obtain ⟨rest, fewer, left⟩ := Debuggee.advance_spends advanced hasNext bounded
  have served := stopsHere_judged (judgement_served Means.all) rfl hit stepped
  have same := stack_stopsHere hit stepped
  rw [passed] at served same
  exact ⟨rest, fewer, left.answered (served.answered (by simp [failure?])) same⟩

/-- So does a step of the worker that leaves it running. -/
theorem step_spends {stopping : Bool} {run : Run} {breakpoints : Breakpoints} {debuggee : Debuggee σ} {count : Nat}
    (still : (step stopping run breakpoints debuggee).worker.isRunning = true) (bounded : debuggee.AdvancesAtMost count) :
    ∃ rest < count, (step stopping run breakpoints debuggee).worker.debuggee.AdvancesAtMost rest := by
  have turns := step_turns stopping run breakpoints debuggee
  generalize step stopping run breakpoints debuggee = turn at turns still ⊢
  generalize ran : leg run breakpoints debuggee = ended at turns
  cases turns with
  | goesOn => exact leg_spends ran bounded
  | arrives | finishes | interrupts | fails | stalls => cases still

/-- The interpreter owes the worker no answer and, as long as the session lasts, never will. -/
structure IsPrompt (worker : Worker σ) : Prop where
  owed : worker.debuggee.channel.isStalled = false
  goesOn : ∀ withheld, worker.activity ≠ .stalled withheld
  interpreter : worker.activity ≠ .ended → NeverBlocks worker.debuggee.channel.interpreter

theorem IsPrompt.idle_or_ended {worker : Worker σ} (prompt : worker.IsPrompt) (resting : worker.isRunning = false) :
    worker.activity = .idle ∨ worker.activity = .ended := by
  unfold isRunning at resting
  cases activity : worker.activity with
  | idle => exact .inl rfl
  | ended => exact .inr rfl
  | stalled withheld => exact absurd activity (prompt.goesOn withheld)
  | running run => simp [activity] at resting

section Served
variable {before : Channel σ} {moved : Debuggee σ} {failed : Option Failure}

theorem isPrompt_ended (owed : moved.channel.isStalled = false) : IsPrompt ⟨moved, .ended⟩ :=
  ⟨owed, nofun, fun going => absurd rfl going⟩

/-- Behind an act that did not end the session, a prompt interpreter is as prompt as it was. -/
theorem isPrompt_served {activity : Activity} (served : before.Served failed moved.channel)
    (owed : before.isStalled = false) (prompt : NeverBlocks before.interpreter)
    (calm : ∀ failure ∈ failed, failure.isFatal = false) (goesOn : ∀ withheld, activity ≠ .stalled withheld) :
    IsPrompt ⟨moved, activity⟩ :=
  ⟨(served.prompt prompt).trans owed, goesOn, fun _ => (served.answered calm).neverBlocks prompt⟩

omit [Interpreter σ] in
theorem endWith_owed (owed : moved.channel.isStalled = false) (stopping : Bool) (reports : List Event)
    (failure : Failure) :
    endWith stopping moved reports failure = (reports ++ [endReport stopping failure], ⟨moved, .ended⟩) := by
  simp [endWith, owed]

end Served

theorem answer_prompt {outcome : Except Failure α × Debuggee σ} {before : Channel σ}
    (served : before.Served (failure? outcome.1) outcome.2.channel) (owed : before.isStalled = false)
    (prompt : NeverBlocks before.interpreter) (stopping : Bool) (report : Except String α → Event) :
    (answer stopping report outcome).2.IsPrompt := by
  have stillOwed := (served.prompt prompt).trans owed
  obtain ⟨failure | value, moved⟩ := outcome
  · unfold answer
    dsimp only
    split
    · rw [endWith_owed stillOwed]
      exact isPrompt_ended stillOwed
    next harmless => exact isPrompt_served served owed prompt (by simpa [failure?] using harmless) nofun
  · exact isPrompt_served served owed prompt (by simp [failure?]) nofun

theorem take_prompt {debuggee : Debuggee σ} (owed : debuggee.channel.isStalled = false)
    (prompt : NeverBlocks debuggee.channel.interpreter) (stopping : Bool) (breakpoints : Breakpoints) (request : Request) :
    (take stopping breakpoints request debuggee).worker.IsPrompt := by
  cases request with
  | run | runTo => exact ⟨owed, nofun, fun _ => prompt⟩
  | evaluate id expression =>
    have served := debuggee.during_judged (judgement_served Means.all) (Inspect.built_evaluate expression)
    exact answer_prompt served owed prompt _ _
  | «variables» id =>
    have served := debuggee.during_judged (judgement_served Means.all) (Inspect.built_visible rfl)
    exact answer_prompt served owed prompt _ _
  | stop => exact isPrompt_ended owed

theorem step_prompt {debuggee : Debuggee σ} (owed : debuggee.channel.isStalled = false)
    (prompt : NeverBlocks debuggee.channel.interpreter) (stopping : Bool) (run : Run) (breakpoints : Breakpoints) :
    (step stopping run breakpoints debuggee).worker.IsPrompt := by
  have served := leg_judged (judgement_served Means.all) rfl rfl run breakpoints debuggee
  dsimp only at served
  rcases ran : leg run breakpoints debuggee with ⟨failure | (_ | reason | _), left, moved⟩ <;>
    rw [ran] at served <;> simp only [step, ran]
  · have stillOwed := (served.prompt prompt).trans owed
    cases fatal : failure.isFatal with
    | true =>
      rw [if_pos rfl, endWith_owed stillOwed]
      exact isPrompt_ended stillOwed
    | false => exact isPrompt_served served owed prompt (by simpa [failure?] using fatal) (by simp)
  · exact isPrompt_served served owed prompt (by simp [failure?]) (by simp)
  · exact isPrompt_served served owed prompt (by simp [failure?]) (by simp)
  · exact isPrompt_served served owed prompt (by simp [failure?]) (by simp)

end Worker

def Move.isLeg : Move → Bool
  | .leg => true
  | .request _ | .alter _ | .shutdown | .release => false

namespace Chronicle

theorem begin_prompt (source : String) {interpreter : σ} (prompt : NeverBlocks interpreter) (breakpoints : Breakpoints) :
    (begin source interpreter breakpoints).worker.IsPrompt := by
  unfold begin Worker.start
  split
  · exact ⟨rfl, nofun, fun _ => prompt⟩
  · exact Worker.isPrompt_ended rfl

theorem move_prompt {chronicle : Chronicle σ} (move : Move) (prompt : chronicle.worker.IsPrompt) :
    (chronicle.move move).worker.IsPrompt := by
  cases move with
  | request request =>
    by_cases idle : chronicle.worker.activity = .idle
    · rw [move_request idle]
      exact Worker.take_prompt prompt.owed (prompt.interpreter (by simp [idle])) _ _ request
    · rwa [move_request_busy idle]
  | leg =>
    by_cases running : ∃ run, chronicle.worker.activity = .running run
    · obtain ⟨run, activity⟩ := running
      rw [move_leg activity]
      exact Worker.step_prompt prompt.owed (prompt.interpreter (by simp [activity])) _ run _
    · rwa [move_leg_resting (not_exists.mp running)]
  | alter | shutdown => exact prompt
  | release =>
    unfold Chronicle.move Worker.release
    dsimp only
    split
    · split
      next withheld activity => exact absurd activity (prompt.goesOn withheld)
      · exact prompt
    · exact prompt

theorem moved_prompt (source : String) {interpreter : σ} (prompt : NeverBlocks interpreter) (breakpoints : Breakpoints)
    (moves : List Move) : ((begin source interpreter breakpoints).moved moves).worker.IsPrompt :=
  moved_induction (motive := fun chronicle => chronicle.worker.IsPrompt) (begin_prompt source prompt breakpoints)
    (fun _ => move_prompt) moves

/-- A run after `taken` legs: while it goes on, so many advances are left that all of them stay within the
limit. Nothing but its own request has been accepted. -/
structure Spends (limit taken : Nat) (asked : Account σ) (older : List (Account σ)) (chronicle : Chronicle σ) : Prop where
  legs : chronicle.legs ≤ limit
  left : chronicle.worker.isRunning = true →
    chronicle.legs = taken ∧ ∃ rest, taken + rest < limit ∧ chronicle.worker.debuggee.AdvancesAtMost rest
  account : ∃ reports, chronicle.accounts = { asked with reports } :: older

variable {limit taken : Nat} {asked : Account σ} {older : List (Account σ)} {chronicle : Chronicle σ}

theorem Spends.noted_account (spends : chronicle.Spends limit taken asked older) (events : List Event) (isStopping : Bool) :
    ∃ reports, noted events isStopping chronicle.accounts = { asked with reports } :: older := by
  obtain ⟨reports, accounts⟩ := spends.account
  exact ⟨_, by rw [accounts]; rfl⟩

theorem Spends.leg (spends : chronicle.Spends limit taken asked older) :
    (chronicle.move .leg).Spends limit (taken + 1) asked older := by
  by_cases running : chronicle.worker.isRunning = true
  · obtain ⟨run, activity⟩ := Worker.isRunning_iff.mp running
    obtain ⟨counted, rest, within, bounded⟩ := spends.left running
    rw [move_leg activity]
    refine ⟨?_, fun still => ⟨congrArg (· + 1) counted, ?_⟩, spends.noted_account _ _⟩
    · change chronicle.legs + 1 ≤ limit
      omega
    · obtain ⟨fewer, less, left⟩ := Worker.step_spends still bounded
      exact ⟨fewer, by omega, left⟩
  · rw [move_leg_resting fun run activity => running (Worker.isRunning_iff.mpr ⟨run, activity⟩)]
    exact ⟨spends.legs, fun still => absurd still running, spends.account⟩

theorem Spends.aside (spends : chronicle.Spends limit taken asked older) {move : Move} (quiet : ∀ request, move ≠ .request request)
    (aside : move.isLeg = false) : (chronicle.move move).Spends limit taken asked older := by
  cases move with
  | request request => exact absurd rfl (quiet request)
  | leg => cases aside
  | alter | shutdown => exact ⟨spends.legs, spends.left, spends.account⟩
  | release =>
    unfold Chronicle.move Worker.release
    dsimp only
    split
    · split
      · exact ⟨spends.legs, nofun, spends.noted_account _ _⟩
      · exact ⟨spends.legs, spends.left, spends.noted_account _ _⟩
    · exact spends

theorem Spends.moved {moves : List Move} (quiet : ∀ request, .request request ∉ moves)
    (spends : chronicle.Spends limit taken asked older) :
    (chronicle.moved moves).Spends limit (taken + moves.countP Move.isLeg) asked older := by
  induction moves generalizing chronicle taken with
  | nil => exact spends
  | cons move rest ih =>
    have later : ∀ request, .request request ∉ rest := fun request member => quiet request (List.mem_cons_of_mem _ member)
    have here : ∀ request, move ≠ .request request := by
      rintro request rfl
      exact quiet request List.mem_cons_self
    cases leg : move.isLeg with
    | true =>
      cases move with
      | leg =>
        rw [List.countP_cons_of_pos leg, Nat.add_comm (rest.countP _), ← Nat.add_assoc]
        exact ih later spends.leg
      | request | alter | shutdown | release => cases leg
    | false =>
      rw [List.countP_cons_of_neg (by simp [leg])]
      exact ih later (spends.aside here leg)

theorem request_spends {request : Request} (isRun : Account.IsRun (⟨request, chronicle.worker.debuggee, []⟩ : Account σ))
    (idle : chronicle.worker.activity = .idle) {rest : Nat} (bounded : chronicle.worker.debuggee.AdvancesAtMost rest) :
    (chronicle.move (.request request)).Spends (rest + 1) 0 ⟨request, chronicle.worker.debuggee, []⟩ chronicle.accounts := by
  rw [move_request idle]
  rcases isRun with ⟨mode, asked⟩ | ⟨target, asked⟩ <;> obtain rfl : request = _ := asked <;>
    exact ⟨Nat.zero_le _, fun _ => ⟨rfl, rest, by omega, bounded⟩, [], rfl⟩

/-- A worker that owes nothing and does not run has settled all that it was asked. -/
theorem Consistent.settled_of_prompt (consistent : chronicle.Consistent) (prompt : chronicle.worker.IsPrompt)
    (resting : chronicle.worker.isRunning = false) : ∀ account ∈ chronicle.accounts, account.IsSettled := by
  intro account member
  rcases consistent.settled_or_pending account member with settled | ⟨_, _, running | ⟨withheld, activity⟩⟩
  · exact settled
  · simp [resting] at running
  · exact absurd activity (prompt.goesOn withheld)

/-- As many legs as the limit allows bring a run to its end. -/
theorem Spends.finished (spends : chronicle.Spends limit taken asked older) (isRun : asked.IsRun)
    (prompt : chronicle.worker.IsPrompt) (consistent : chronicle.Consistent) (enough : limit ≤ taken) :
    (chronicle.worker.activity = .idle ∨ chronicle.worker.activity = .ended) ∧
      ∃ report, chronicle.accounts = { asked with reports := [report] } :: older ∧ report.event.EndsRun := by
  have resting : chronicle.worker.isRunning = false := by
    cases running : chronicle.worker.isRunning with
    | false => rfl
    | true =>
      obtain ⟨_, rest, within, _⟩ := spends.left running
      omega
  refine ⟨prompt.idle_or_ended resting, ?_⟩
  obtain ⟨reports, accounts⟩ := spends.account
  have settled := consistent.settled_of_prompt prompt resting _ (accounts ▸ List.mem_cons_self)
  obtain ⟨report, rfl, ends, _⟩ : ∃ report, reports = [report] ∧ report.event.EndsRun ∧ report.Calm := by
    unfold Account.IsSettled at settled
    rcases isRun with ⟨_, request⟩ | ⟨_, request⟩ <;> simpa only [request] using settled
  exact ⟨report, accounts, ends⟩

end Chronicle

namespace Worker

theorem settle_resting (stopping : Bool) (breakpoints : Breakpoints) (worker : Worker σ) :
    (settle stopping breakpoints worker).worker.isRunning = false := by
  obtain ⟨count, same, _, resting, _⟩ := Chronicle.settle_legs ⟨worker, breakpoints, stopping, [], [], 0, none⟩
  exact same ▸ resting

theorem perform_resting {worker : Worker σ} (resting : worker.isRunning = false) (stopping : Bool)
    (breakpoints : Breakpoints) (request : Request) :
    (worker.perform stopping breakpoints request).worker.isRunning = false := by
  unfold perform
  split
  · exact settle_resting ..
  · exact resting

/-- A request that a worker deals with from beginning to end is settled, and the worker is as prompt as it
was. -/
theorem perform_settles {worker : Worker σ} (prompt : worker.IsPrompt) (idle : worker.activity = .idle) (stopping : Bool)
    (breakpoints : Breakpoints) (request : Request) :
    let turn := worker.perform stopping breakpoints request
    turn.worker.IsPrompt ∧
      Account.IsSettled ⟨request, worker.debuggee, turn.events.map (⟨·, stopping⟩)⟩ := by
  let waiting : Chronicle σ := ⟨worker, breakpoints, stopping, [.stopped ⟨.entry, [], none⟩], [], 0, none⟩
  have consistent : waiting.Consistent := ⟨.inr ⟨_, rfl⟩, by simp [waiting], by simpa [waiting, idle] using .unasked⟩
  have waits : waiting.worker.activity = .idle := idle
  obtain ⟨count, sameWorker, _, accounts⟩ := Chronicle.perform_moves waits request
  let later := waiting.moved (.request request :: List.replicate count .leg)
  have laterPrompt : later.worker.IsPrompt :=
    Chronicle.moved_induction (motive := fun chronicle => chronicle.worker.IsPrompt) prompt
      (fun _ => Chronicle.move_prompt) _
  have laterConsistent : later.Consistent :=
    Chronicle.moved_induction consistent (fun _ => Chronicle.move_consistent) _
  have resting : later.worker.isRunning = false := by
    rw [show later.worker = _ from sameWorker]
    exact perform_resting (by simp [waiting, isRunning, idle]) ..
  refine ⟨sameWorker ▸ laterPrompt, ?_⟩
  exact laterConsistent.settled_of_prompt laterPrompt resting _ (accounts ▸ List.mem_cons_self)

end Worker
end RStepper
