import RStepper.Console.Dialogue
import RStepper.Proofs.StepAccounting
import RStepper.Proofs.StepBudget

/-! Stepping ends. A console waits for the worker in two places: for the next pause, and for the answer to an
inspection. With an interpreter that never blocks the worker settles each request, so both waits are over,
and a dialogue returns for every input. -/

namespace RStepper
variable {σ α : Type}
open Interpreter

/-- The number of the inspection that a report answers. -/
def Event.inspection? : Event → Option Nat
  | .evaluated id _ | .variables id _ => some id
  | .stopped _ | .terminated | .failed _ => none

theorem Event.EndsRun.inspection? {event : Event} (ends : event.EndsRun) : event.inspection? = none := by
  cases event with
  | stopped | terminated | failed => rfl
  | evaluated | «variables» => exact ends.elim

theorem Inspected.answers {answer : Except String α → Event} {outcome : Except Failure α} {reports : List Report}
    (inspected : Inspected answer outcome reports) : ∃ value, ∃ report ∈ reports, report.event = answer value := by
  cases inspected with
  | value | harmless | fatal => exact ⟨_, _, List.mem_cons_self, rfl⟩

namespace Console.Dialogue

@[simp] theorem worker_tell (dialogue : Dialogue σ) (text : String) : (dialogue.tell text).worker = dialogue.worker := rfl

theorem tellLines_eq (dialogue : Dialogue σ) (texts : List String) :
    ∃ shown, dialogue.tellLines texts = { dialogue with shown } := by
  unfold tellLines
  induction texts generalizing dialogue with
  | nil => exact ⟨_, rfl⟩
  | cons text rest ih => exact ih (dialogue.tellLine text)

theorem hearStop_eq (dialogue : Dialogue σ) (events : List Event) :
    ∃ shown frames unread, (dialogue.hearStop events).2 = { dialogue with shown, frames, unread } := by
  induction events with
  | nil => exact ⟨_, _, _, rfl⟩
  | cons event later ih =>
    cases event with
    | stopped stop =>
      obtain ⟨shown, told⟩ := tellLines_eq dialogue ((stop.message.map errorMessage).toList ++
        ["Stopped (" ++ stop.reason.label ++ ") at " ++ stop.location.render] ++
        (dialogue.sourceLine? stop.location).toList)
      exact ⟨shown, stop.frames, later, by rw [hearStop, tellStop, told]⟩
    | terminated | failed => exact ⟨_, _, _, rfl⟩
    | evaluated | «variables» => exact ih

theorem hearAnswer_eq (dialogue : Dialogue σ) (id : Nat) (events : List Event) :
    ∃ shown unread, (dialogue.hearAnswer id events).2 = { dialogue with shown, unread } := by
  induction events with
  | nil => exact ⟨_, _, rfl⟩
  | cons event later ih =>
    cases event with
    | stopped => exact ih
    | terminated | failed => exact ⟨_, _, rfl⟩
    | evaluated _ answer =>
      unfold hearAnswer
      split
      · obtain ⟨shown, told⟩ := tellLines_eq dialogue (answerLines (fun value => [value]) answer)
        exact ⟨shown, later, by rw [told]⟩
      · exact ih
    | «variables» _ answer =>
      unfold hearAnswer
      split
      · obtain ⟨shown, told⟩ := tellLines_eq dialogue (answerLines (·.map variableLine) answer)
        exact ⟨shown, later, by rw [told]⟩
      · exact ih

@[simp] theorem worker_hearStop (dialogue : Dialogue σ) (events : List Event) :
    (dialogue.hearStop events).2.worker = dialogue.worker := by
  obtain ⟨_, _, _, same⟩ := hearStop_eq dialogue events
  rw [same]

@[simp] theorem worker_hearAnswer (dialogue : Dialogue σ) (id : Nat) (events : List Event) :
    (dialogue.hearAnswer id events).2.worker = dialogue.worker := by
  obtain ⟨_, _, same⟩ := hearAnswer_eq dialogue id events
  rw [same]

/-- Whoever waits for a pause hears of one, or of the end of the session, if a report of either is there. -/
theorem hearStop_hears (dialogue : Dialogue σ) {events : List Event}
    (reported : ∃ event ∈ events, event.inspection? = none) : (dialogue.hearStop events).1 ≠ .silence := by
  induction events with
  | nil => simp at reported
  | cons event later ih =>
    cases event with
    | stopped | terminated | failed => exact nofun
    | evaluated | «variables» => exact ih (by simpa [Event.inspection?] using reported)

theorem hearAnswer_hears (dialogue : Dialogue σ) {id : Nat} {events : List Event}
    (reported : ∃ event ∈ events, event.inspection? = some id) : (dialogue.hearAnswer id events).1 ≠ .silence := by
  induction events with
  | nil => simp at reported
  | cons event later ih =>
    cases event with
    | stopped => exact ih (by simpa [Event.inspection?] using reported)
    | terminated | failed => exact nofun
    | evaluated answered | «variables» answered =>
      unfold hearAnswer
      split
      · exact nofun
      next other => exact ih (by simpa [Event.inspection?, other] using reported)

theorem outcome?_returns {heard : Heard} (hears : heard ≠ .silence) (dialogue : Dialogue σ) :
    outcome? heard dialogue ≠ some .stalled := by
  cases heard with
  | news | sessionEnd => exact nofun
  | silence => exact absurd rfl hears

theorem outcome?_ended {dialogue : Dialogue σ} (ended : dialogue.worker.hasEnded = true) (heard : Heard) :
    outcome? heard dialogue ≠ some .stalled := by
  cases heard with
  | news | sessionEnd => exact nofun
  | silence => simp [outcome?, ended]

theorem elapse_eq (dialogue : Dialogue σ) : ∃ isOpen lag, dialogue.elapse = { dialogue with isOpen, lag } := by
  unfold elapse
  split <;> exact ⟨_, _, rfl⟩

@[simp] theorem worker_elapse (dialogue : Dialogue σ) : dialogue.elapse.worker = dialogue.worker := by
  obtain ⟨_, _, same⟩ := elapse_eq dialogue
  rw [same]

variable [Interpreter σ]

theorem worker_submit_ended {dialogue : Dialogue σ} (ended : dialogue.worker.hasEnded = true) (request : Request) :
    (dialogue.submit request).worker = dialogue.worker := by
  simp [submit, Worker.perform, Worker.hasEnded_iff.mp ended]

/-- The worker of the dialogue waits for a request, or has ended, and owes nothing. -/
structure Attended (dialogue : Dialogue σ) : Prop where
  prompt : dialogue.worker.IsPrompt
  resting : dialogue.worker.isRunning = false

theorem Attended.congr {dialogue later : Dialogue σ} (attended : dialogue.Attended)
    (same : later.worker = dialogue.worker) : later.Attended :=
  ⟨same ▸ attended.prompt, same ▸ attended.resting⟩

theorem Attended.idle {dialogue : Dialogue σ} (attended : dialogue.Attended) (going : dialogue.worker.hasEnded = false) :
    dialogue.worker.activity = .idle := by
  rcases attended.prompt.idle_or_ended attended.resting with idle | ended
  · exact idle
  · simp [Worker.hasEnded, ended] at going

/-- What a part of a dialogue comes to: it does not wait for ever, and a dialogue that goes on is attended. -/
structure Returns (result : Option Outcome × Dialogue σ) : Prop where
  outcome : result.1 ≠ some .stalled
  attended : result.1 = none → result.2.Attended

theorem submit_settles {dialogue : Dialogue σ} (attended : dialogue.Attended) (going : dialogue.worker.hasEnded = false)
    (request : Request) :
    let asked := dialogue.submit request
    asked.Attended ∧ ∃ reports : List Report, (∀ report ∈ reports, report.event ∈ asked.unread) ∧
      Account.IsSettled ⟨request, dialogue.worker.debuggee, reports⟩ := by
  have idle := attended.idle going
  obtain ⟨prompt, settled⟩ := Worker.perform_settles attended.prompt idle false dialogue.breakpoints request
  refine ⟨⟨prompt, Worker.perform_resting attended.resting ..⟩, _, ?_, settled⟩
  intro report member
  obtain ⟨event, told, rfl⟩ := List.mem_map.mp member
  exact List.mem_append_right _ told

theorem run_returns {dialogue : Dialogue σ} (attended : dialogue.Attended) {request : Request}
    (isRun : (∃ mode, request = .run mode) ∨ ∃ target, request = .runTo target) : Returns (dialogue.run request) := by
  unfold run
  split
  case isFalse => exact ⟨nofun, nofun⟩
  case isTrue =>
    unfold awaitStop
    dsimp only
    cases going : dialogue.worker.hasEnded with
    | true =>
      have same := worker_submit_ended going request
      exact ⟨outcome?_ended (by rw [worker_hearStop, same, going]) _,
        fun _ => attended.congr ((worker_hearStop ..).trans same)⟩
    | false =>
      obtain ⟨asked, reports, unread, settled⟩ := submit_settles attended going request
      obtain ⟨report, only, ends, _⟩ : ∃ report, reports = [report] ∧ report.event.EndsRun ∧ report.Calm := by
        rcases isRun with ⟨mode, rfl⟩ | ⟨target, rfl⟩ <;> exact settled
      have heard := hearStop_hears (dialogue.submit request)
        ⟨report.event, unread report (only ▸ List.mem_cons_self), ends.inspection?⟩
      exact ⟨outcome?_returns heard _, fun _ => asked.congr (worker_hearStop ..)⟩

theorem inspect_returns {dialogue : Dialogue σ} (attended : dialogue.Attended) {request : Nat → Request}
    (inspects : (∃ expression, request = (.evaluate · expression)) ∨ request = .variables) :
    Returns (dialogue.inspect request) := by
  unfold inspect
  dsimp only
  let counted : Dialogue σ := { dialogue with inspections := dialogue.inspections + 1 }
  have still : counted.Attended := attended.congr rfl
  split
  case isFalse => exact ⟨nofun, nofun⟩
  case isTrue =>
    cases going : counted.worker.hasEnded with
    | true =>
      have same := worker_submit_ended going (request counted.inspections)
      exact ⟨outcome?_ended (by rw [worker_hearAnswer, same, going]) _,
        fun _ => still.congr ((worker_hearAnswer ..).trans same)⟩
    | false =>
      obtain ⟨asked, reports, unread, settled⟩ := submit_settles still going (request counted.inspections)
      have answered : ∃ report ∈ reports, report.event.inspection? = some counted.inspections := by
        rcases inspects with ⟨expression, rfl⟩ | rfl <;>
          obtain ⟨value, report, member, same⟩ := Inspected.answers settled <;>
          exact ⟨report, member, by rw [same]; rfl⟩
      obtain ⟨report, member, same⟩ := answered
      have heard := hearAnswer_hears (counted.submit (request counted.inspections)) ⟨report.event, unread report member, same⟩
      exact ⟨outcome?_returns heard _, fun _ => asked.congr (worker_hearAnswer ..)⟩

theorem obey_returns {dialogue : Dialogue σ} (attended : dialogue.Attended) (command : Command) :
    Returns (dialogue.obey command) := by
  cases command with
  | run mode => exact run_returns attended (.inl ⟨mode, rfl⟩)
  | runTo line => exact run_returns attended (.inr ⟨_, rfl⟩)
  | setBreakpoint line condition => cases condition <;> exact ⟨nofun, fun _ => attended.congr rfl⟩
  | removeBreakpoint line => exact ⟨nofun, fun _ => attended.congr rfl⟩
  | print expression =>
    have returns := inspect_returns attended (.inl ⟨expression, rfl⟩)
    exact returns
  | «variables» =>
    have returns := inspect_returns attended (.inr rfl)
    exact returns
  | frames =>
    obtain ⟨_, told⟩ := tellLines_eq dialogue (frameLines dialogue.frames)
    exact ⟨nofun, fun _ => attended.congr (by rw [obey, told])⟩
  | quit => exact ⟨nofun, nofun⟩

theorem take_returns {dialogue : Dialogue σ} (attended : dialogue.Attended) (line : List Char) :
    Returns (dialogue.take line) := by
  unfold take
  dsimp only
  cases Command.parse? (String.ofList (Text.trim line)) with
  | some command => exact obey_returns attended command
  | none => exact ⟨nofun, fun _ => attended.congr rfl⟩

theorem takeBytes_returns {dialogue : Dialogue σ} (attended : dialogue.Attended) (line : List UInt8) :
    Returns (dialogue.takeBytes line) := by
  unfold takeBytes
  cases Text.readByteLine line with
  | error => exact ⟨nofun, nofun⟩
  | ok text => exact take_returns (attended.congr (worker_elapse dialogue)) text

theorem converse_returns {dialogue : Dialogue σ} (attended : dialogue.Attended) (lines : List (List UInt8)) :
    (dialogue.converse lines).1 ≠ .stalled := by
  induction lines generalizing dialogue with
  | nil => exact nofun
  | cons line later ih =>
    have returned := takeBytes_returns (attended.congr (worker_tell dialogue menu)) line
    unfold converse
    rcases took : (dialogue.tell menu).takeBytes line with ⟨_ | outcome, told⟩ <;> rw [took] at returned
    · exact ih (returned.attended rfl)
    · exact fun stalled => returned.outcome (congrArg some stalled)

theorem hold_returns {dialogue : Dialogue σ} (attended : dialogue.Attended)
    (begins : ∃ event ∈ dialogue.unread, event.inspection? = none) (input : List UInt8) :
    (dialogue.hold input).1 ≠ .stalled := by
  have heard : dialogue.awaitStop.1 ≠ some .stalled := outcome?_returns (hearStop_hears dialogue begins) _
  have still : dialogue.awaitStop.2.Attended := attended.congr (worker_hearStop ..)
  unfold hold
  rcases waited : dialogue.awaitStop with ⟨_ | outcome, told⟩ <;> rw [waited] at heard still
  · exact converse_returns still _
  · exact fun stalled => heard (congrArg some stalled)

theorem attended_of_reached {dialogue : Dialogue σ} {chronicle : Chronicle σ} (prompt : chronicle.worker.IsPrompt)
    (resting : chronicle.worker.isRunning = false) (same : dialogue.worker = chronicle.worker) : dialogue.Attended :=
  ⟨same ▸ prompt, same ▸ resting⟩

theorem start_returns (source : String) {interpreter : σ} (prompt : NeverBlocks interpreter) (breakpoints : Breakpoints)
    (listing : List String) (input : List UInt8) :
    ((start (.start source interpreter) breakpoints listing).hold input).1 ≠ .stalled := by
  have began : (Worker.start (.start source interpreter)).2.isRunning = false ∧
      ∃ event ∈ (Worker.start (.start source interpreter)).1, event.inspection? = none := by
    unfold Worker.start
    split <;> exact ⟨rfl, _, List.mem_cons_self, rfl⟩
  have attended : (start (.start source interpreter) breakpoints listing).Attended :=
    attended_of_reached (Chronicle.begin_prompt source prompt breakpoints) began.1 rfl
  exact hold_returns attended began.2 input

end Console.Dialogue

namespace Chronicle
variable [Interpreter σ]

/-- A run that is over after so many legs is dealt with by at most so many. -/
theorem perform_within {chronicle : Chronicle σ} (idle : chronicle.worker.activity = .idle) {request : Request} {limit : Nat}
    (finished : (chronicle.moved (.request request :: List.replicate limit .leg)).worker.isRunning = false) :
    ∃ count ≤ limit, let later := chronicle.moved (.request request :: List.replicate count .leg)
      let turn := chronicle.worker.perform chronicle.isStopping chronicle.breakpoints request
      later.worker = turn.worker ∧ later.breakpoints = turn.breakpoints := by
  obtain ⟨count, worker, breakpoints, _⟩ := perform_moves idle request
  by_cases within : count ≤ limit
  · exact ⟨count, within, worker, breakpoints⟩
  · have split : .request request :: List.replicate count Move.leg =
        (.request request :: List.replicate limit .leg) ++ List.replicate (count - limit) .leg := by
      rw [List.cons_append, List.replicate_append_replicate, Nat.add_sub_cancel' (by omega)]
    rw [split, moved_append, moved_legs_resting finished] at worker breakpoints
    exact ⟨limit, Nat.le_refl _, worker, breakpoints⟩

/-- With an interpreter that never blocks stepping ends. Wherever the worker waits for a request, a run in
any mode takes no more advances than the interpreter still answers steps, the script still has lines, and one
more; by then it has been reported, whatever came between its legs. And every dialogue on such a worker
returns. A scripted interpreter is one of these if none of its replies hangs, and without a rule for the step
it answers no more steps than it has replies. -/
theorem stepping_ends (source : String) {interpreter : σ} (prompt : NeverBlocks interpreter) (breakpoints : Breakpoints)
    (history : List Move) :
    let reached := (begin source interpreter breakpoints).moved history
    (∀ request, ((∃ mode, request = .run mode) ∨ ∃ target, request = .runTo target) →
      reached.worker.activity = .idle → ∀ answers, AnswersAtMost reached.worker.debuggee.channel.interpreter answers →
        let limit := answers + reached.worker.debuggee.stack.script.linesLeft + 1
        (∀ moves, (∀ other, .request other ∉ moves) →
          let later := reached.moved (.request request :: moves)
          later.legs ≤ limit ∧ (limit ≤ moves.countP Move.isLeg →
            (later.worker.activity = .idle ∨ later.worker.activity = .ended) ∧
              ∃ report, later.accounts = ⟨request, reached.worker.debuggee, [report]⟩ :: reached.accounts ∧
                report.event.EndsRun)) ∧
        ∃ count ≤ limit, let later := reached.moved (.request request :: List.replicate count .leg)
          let turn := reached.worker.perform reached.isStopping reached.breakpoints request
          later.worker = turn.worker ∧ later.breakpoints = turn.breakpoints) ∧
    (∀ dialogue : Console.Dialogue σ, dialogue.worker = reached.worker → reached.worker.isRunning = false →
      (∃ event ∈ dialogue.unread, event.inspection? = none) → ∀ input, (dialogue.hold input).1 ≠ .stalled) ∧
    (∀ listing input, ((Console.Dialogue.start (.start source interpreter) breakpoints listing).hold input).1 ≠ .stalled) ∧
    ∀ script : Scripted, (∀ rule ∈ script.rules, rule.reply ≠ .pending) → (∀ reply ∈ script.replies, reply ≠ .pending) →
      NeverBlocks script ∧
        ((∀ rule ∈ script.rules, rule.applies stepCommand = false) → AnswersAtMost script script.replies.length) := by
  intro reached
  have attentive : reached.worker.IsPrompt := moved_prompt source prompt breakpoints history
  have consistent : reached.Consistent := moved_consistent source interpreter breakpoints history
  refine ⟨?_, ?_, Console.Dialogue.start_returns source prompt breakpoints, ?_⟩
  · intro request isRun idle answers bounded limit
    let asked : Account σ := ⟨request, reached.worker.debuggee, []⟩
    have asks : asked.IsRun := isRun
    have begun := request_spends asks idle ⟨answers, bounded, Nat.le_refl _⟩
    have ends (moves : List Move) (quiet : ∀ other, .request other ∉ moves) :
        let later := reached.moved (.request request :: moves)
        later.legs ≤ limit ∧ (limit ≤ moves.countP Move.isLeg →
          (later.worker.activity = .idle ∨ later.worker.activity = .ended) ∧
            ∃ report, later.accounts = ⟨request, reached.worker.debuggee, [report]⟩ :: reached.accounts ∧
              report.event.EndsRun) := by
      intro later
      have spends := begun.moved quiet
      have laterPrompt : later.worker.IsPrompt :=
        moved_induction (motive := fun chronicle => chronicle.worker.IsPrompt) attentive (fun _ => move_prompt) _
      have laterConsistent : later.Consistent := moved_induction consistent (fun _ => move_consistent) _
      exact ⟨spends.legs, fun enough => spends.finished isRun laterPrompt laterConsistent (by omega)⟩
    refine ⟨ends, perform_within idle ?_⟩
    have finished := ((ends (List.replicate limit .leg) (by simp)).2 (by simp [List.countP_replicate, Move.isLeg])).1
    unfold Worker.isRunning
    rcases finished with activity | activity <;> rw [activity]
  · intro dialogue same resting begins input
    exact Console.Dialogue.hold_returns (Console.Dialogue.attended_of_reached attentive resting same) begins input
  · exact fun script rules replies => ⟨Scripted.neverBlocks_of_replies rules replies, Scripted.answersAtMost_replies⟩

/-- Behind its first step a script of one call is over after four more advances at most: three replies are
left, and no line. -/
theorem nestedReturn_ends :
    let reached := (begin "f()" Debuggee.nestedReturn .empty).moved [.request (.run .into), .leg]
    let later := reached.moved (.request (.run .resume) :: List.replicate 4 .leg)
    NeverBlocks Debuggee.nestedReturn ∧ reached.worker.activity = .idle ∧
      AnswersAtMost reached.worker.debuggee.channel.interpreter 3 ∧
      reached.worker.debuggee.stack.script.linesLeft = 0 ∧
      (later.worker.activity = .idle ∨ later.worker.activity = .ended) ∧ later.legs ≤ 4 ∧
      ∀ input, ((Console.Dialogue.start (.start "f()" Debuggee.nestedReturn) .empty ["f()"]).hold input).1 ≠ .stalled := by
  intro reached later
  have prompt : NeverBlocks Debuggee.nestedReturn := Scripted.neverBlocks_of_replies (by decide) (by decide)
  obtain ⟨resting, going, free, replies, lines⟩ : reached.worker.isRunning = false ∧ reached.worker.hasEnded = false ∧
      (∀ rule ∈ reached.worker.debuggee.channel.interpreter.rules, rule.applies stepCommand = false) ∧
      reached.worker.debuggee.channel.interpreter.replies.length = 3 ∧
      reached.worker.debuggee.stack.script.linesLeft = 0 := by decide +kernel
  have attentive : reached.worker.IsPrompt := moved_prompt "f()" prompt .empty [.request (.run .into), .leg]
  have idle : reached.worker.activity = .idle := by
    rcases attentive.idle_or_ended resting with idle | ended
    · exact idle
    · simp [Worker.hasEnded, ended] at going
  have bounded : AnswersAtMost reached.worker.debuggee.channel.interpreter 3 :=
    replies ▸ Scripted.answersAtMost_replies free
  obtain ⟨runs, _, dialogues, _⟩ :=
    stepping_ends "f()" prompt .empty [.request (.run .into), .leg]
  obtain ⟨within, ends⟩ := (runs (.run .resume) (.inl ⟨_, rfl⟩) idle 3 bounded).1 (List.replicate 4 .leg) (by simp)
  rw [lines] at within ends
  exact ⟨prompt, idle, bounded, lines, (ends (by decide)).1, within, dialogues ["f()"]⟩

end Chronicle
end RStepper
