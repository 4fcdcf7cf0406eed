import RStepper.Proofs.StepIteration
import RStepper.Proofs.SteppingEnds

/-! The last words of a dialogue. A dialogue that the user does not leave ends with the report that the session is over,
and tells it, with one exception: an inspection that fails for good is answered and the dialogue goes on, so that the
end of the session is still unread when the next run or inspection finds that the worker takes no request any more. If
the worker still takes it, though it has ended, the report is read as the answer. -/

namespace RStepper
variable {σ : Type}

/-- What the console says when it hears that the session is over. -/
def Event.lastWords? : Event → Option String
  | .terminated => some (Console.finishedMessage ++ "\n")
  | .failed message => some (Console.failedMessage message ++ "\n")
  | .stopped _ | .evaluated .. | .variables .. => none

/-- The answer to an inspection that failed with this message. -/
def Event.Regrets (message : String) : Event → Prop
  | .evaluated _ answer => answer = .error message
  | .variables _ answer => answer = .error message
  | .stopped _ | .terminated | .failed _ => False

namespace Worker
variable [Interpreter σ]

/-- What a run comes to: a pause, the end of the session, or nothing as long as an answer is owed. -/
inductive RunOver (turn : Turn σ) : Prop where
  | pause (stop) (events : turn.events = [.stopped stop]) (waits : turn.worker.activity = .idle)
  | close (event words) (events : turn.events = [event]) (last : event.lastWords? = some words)
      (ended : turn.worker.activity = .ended)
  | owed (withheld) (events : turn.events = []) (stalled : turn.worker.activity = .stalled withheld)

inductive Inspection (id : Nat) (turn : Turn σ) : Prop where
  | answer (event : Event) (events : turn.events = [event]) (answers : event.inspection? = some id)
      (waits : turn.worker.activity = .idle)
  | fatal (event : Event) (message) (events : turn.events = [event, .failed message])
      (answers : event.inspection? = some id) (regrets : event.Regrets message) (ended : turn.worker.activity = .ended)
  | owed (withheld) (events : turn.events = []) (stalled : turn.worker.activity = .stalled withheld)

theorem runOver_settle (breakpoints : Breakpoints) (run : Run) (debuggee : Debuggee σ) :
    RunOver (settle false breakpoints ⟨debuggee, .running run⟩) := by
  by_cases goes : ∃ left moved, leg run breakpoints debuggee = (.ok .goOn, left, moved)
  · obtain ⟨left, moved, ran⟩ := goes
    have fewer := stepsLeft_leg_lt ran
    rw [settle_goOn ran]
    exact runOver_settle left run moved
  · have ends : ∀ left moved, leg run breakpoints debuggee ≠ (.ok .goOn, left, moved) :=
      fun left moved ran => goes ⟨left, moved, ran⟩
    rw [settle_over ends]
    have turns := step_turns false run breakpoints debuggee
    generalize leg run breakpoints debuggee = ended at turns ends
    generalize step false run breakpoints debuggee = turn at turns ⊢
    cases turns with
    | goesOn => exact absurd rfl (ends _ _)
    | arrives | interrupts => exact .pause _ rfl rfl
    | finishes | fails => exact .close _ _ rfl rfl rfl
    | stalls => exact .owed _ rfl rfl
termination_by debuggee.stepsLeft

theorem perform_idle {worker : Worker σ} (idle : worker.activity = .idle) (breakpoints : Breakpoints) (request : Request) :
    let begun := take false breakpoints request worker.debuggee
    let rest := settle false begun.breakpoints begun.worker
    worker.perform false breakpoints request = { rest with events := begun.events ++ rest.events } := by
  simp only [perform, idle]

theorem settle_of_resting {worker : Worker σ} (resting : worker.isRunning = false) (stopping : Bool)
    (breakpoints : Breakpoints) : settle stopping breakpoints worker = ⟨[], breakpoints, worker⟩ := by
  rw [settle]
  cases activity : worker.activity with
  | running => simp [isRunning, activity] at resting
  | idle | stalled | ended => rfl

theorem runOver_perform {worker : Worker σ} (idle : worker.activity = .idle) (breakpoints : Breakpoints)
    {request : Request} (isRun : (∃ mode, request = .run mode) ∨ ∃ target, request = .runTo target) :
    RunOver (worker.perform false breakpoints request) := by
  rw [perform_idle idle]
  rcases isRun with ⟨mode, rfl⟩ | ⟨target, rfl⟩ <;> exact runOver_settle ..

theorem inspection_answer {α : Type} {id : Nat} (report : Except String α → Event) (breakpoints : Breakpoints)
    (answers : ∀ value, (report value).inspection? = some id) (regrets : ∀ message, (report (.error message)).Regrets message)
    (outcome : Except Failure α × Debuggee σ) :
    let begun := answer false report outcome
    let rest := settle false breakpoints begun.2
    Inspection id ({ rest with events := begun.1 ++ rest.events } : Turn σ) := by
  have made := answer_answers false report outcome
  generalize answer false report outcome = begun at made ⊢
  dsimp only
  cases made with
  | tells | regrets =>
    rw [settle_of_resting rfl]
    exact .answer _ rfl (answers _) rfl
  | fails =>
    rw [settle_of_resting rfl]
    exact .fatal _ _ rfl (answers _) (regrets _) rfl
  | stalls =>
    rw [settle_of_resting rfl]
    exact .owed _ rfl rfl

theorem inspection_perform {worker : Worker σ} (idle : worker.activity = .idle) (breakpoints : Breakpoints) (id : Nat)
    {request : Nat → Request} (inspects : (∃ expression, request = (.evaluate · expression)) ∨ request = .variables) :
    Inspection id (worker.perform false breakpoints (request id)) := by
  rw [perform_idle idle]
  rcases inspects with ⟨expression, rfl⟩ | rfl
  · exact inspection_answer (.evaluated id) breakpoints (fun _ => rfl) (fun _ => rfl) _
  · exact inspection_answer (.variables id) breakpoints (fun _ => rfl) (fun _ => rfl) _

end Worker

namespace Console.Dialogue
open Text

@[simp] theorem text_tell (dialogue : Dialogue σ) (said : String) : (dialogue.tell said).text = dialogue.text ++ said := by
  simp [text, tell, List.filterMap_append, Utterance.console?]

@[simp] theorem isOpen_hearStop (dialogue : Dialogue σ) (events : List Event) :
    (dialogue.hearStop events).2.isOpen = dialogue.isOpen := by
  obtain ⟨_, _, _, same⟩ := hearStop_eq dialogue events
  rw [same]

@[simp] theorem isOpen_hearAnswer (dialogue : Dialogue σ) (id : Nat) (events : List Event) :
    (dialogue.hearAnswer id events).2.isOpen = dialogue.isOpen := by
  obtain ⟨_, _, same⟩ := hearAnswer_eq dialogue id events
  rw [same]

def command? (line : List UInt8) : Option Command :=
  match readByteLine line with
  | .error _ => none
  | .ok text => Command.parse? (String.ofList (trim text))

def request? (dialogue : Dialogue σ) : Command → Option Request
  | .run mode => some (.run mode)
  | .runTo line => some (.runTo (.inScript line))
  | .print expression => some (.evaluate (dialogue.inspections + 1) expression)
  | .variables => some (.variables (dialogue.inspections + 1))
  | .quit => some .stop
  | .setBreakpoint .. | .removeBreakpoint _ | .frames => none

variable [Interpreter σ]

def reportsOn (dialogue : Dialogue σ) (line : List UInt8) : List Event :=
  match (command? line).bind dialogue.request? with
  | none => []
  | some request => (dialogue.worker.perform false dialogue.breakpoints request).events

/-- A dialogue up to some line of its input, the last one that was read: all that the worker reported meanwhile, and
what came of the line. -/
inductive Course (first : Dialogue σ) : List (List UInt8) → List Event → Option Outcome × Dialogue σ → Prop where
  | begun : Course first [] first.unread first.awaitStop
  | read {lines events told} (before : Course first lines events (none, told)) (line : List UInt8) :
      Course first (lines ++ [line]) (events ++ told.reportsOn line) ((told.tell menu).takeBytes line)

omit [Interpreter σ] in
theorem elapse_idle {dialogue : Dialogue σ} (waits : dialogue.worker.activity = .idle) : dialogue.elapse = dialogue :=
  if_neg (by simp [Worker.hasEnded, waits])

omit [Interpreter σ] in
theorem elapse_tell (dialogue : Dialogue σ) (said : String) : (dialogue.tell said).elapse = dialogue.elapse.tell said := by
  unfold elapse
  rw [worker_tell]
  split <;> rfl

theorem reportsOn_elapse (dialogue : Dialogue σ) (line : List UInt8) : dialogue.elapse.reportsOn line = dialogue.reportsOn line := by
  obtain ⟨_, _, same⟩ := elapse_eq dialogue
  have requests : dialogue.elapse.request? = dialogue.request? := by
    rw [same]
    funext command
    cases command <;> rfl
  rw [reportsOn, reportsOn, requests, same]

/-- A dialogue that goes on. All reports were read, unless an inspection failed for good. -/
inductive Going (told : Dialogue σ) (events : List Event) : Prop where
  | waiting (waits : told.worker.activity = .idle) (opened : told.isOpen = true) (read : told.unread = [])
  | failed (front answer message) (ended : told.worker.activity = .ended) (unread : told.unread = [.failed message])
      (reported : events = front ++ [answer, .failed message]) (regrets : answer.Regrets message)

omit [Interpreter σ] in
theorem Going.elapse {dialogue : Dialogue σ} {events : List Event} (going : dialogue.Going events) :
    dialogue.elapse.Going events := by
  obtain ⟨isOpen, lag, same⟩ := elapse_eq dialogue
  cases going with
  | waiting waits opened read =>
    rw [elapse_idle waits]
    exact .waiting waits opened read
  | failed front answer message ended unread reported regrets =>
    rw [same]
    exact .failed front answer message ended unread reported regrets

/-- The last report was that the session is over, and it is the last thing that the console said. -/
def Told (told : Dialogue σ) (events : List Event) : Prop :=
  ∃ event words before, events.getLast? = some event ∧ event.lastWords? = some words ∧ told.text = before ++ words

/-- The last reports were that an inspection failed, and the session with it. The second one was not read, and the
menu is the last thing that the console said. -/
def Untold (told : Dialogue σ) (events : List Event) : Prop :=
  ∃ front answer message before, events = front ++ [answer, .failed message] ∧ answer.Regrets message ∧
    told.unread = [.failed message] ∧ told.text = before ++ menu

theorem unread_submit {dialogue : Dialogue σ} (read : dialogue.unread = []) {request : Request} {turn : Turn σ}
    (performed : dialogue.worker.perform false dialogue.breakpoints request = turn) :
    (dialogue.submit request).unread = turn.events := by
  rw [submit, read, List.nil_append, performed]

theorem worker_submit {dialogue : Dialogue σ} {request : Request} {turn : Turn σ}
    (performed : dialogue.worker.perform false dialogue.breakpoints request = turn) :
    (dialogue.submit request).worker = turn.worker := by
  rw [← performed]
  rfl

theorem run_waiting {dialogue : Dialogue σ} (opened : dialogue.isOpen = true)
    (read : dialogue.unread = []) {request : Request} {turn : Turn σ}
    (performed : dialogue.worker.perform false dialogue.breakpoints request = turn)
    (ending : Worker.RunOver turn) (events : List Event) :
    ((dialogue.run request).1 = none → Going (dialogue.run request).2 (events ++ turn.events)) ∧
      ((dialogue.run request).1 = some .finished →
        Told (dialogue.run request).2 (events ++ turn.events) ∧ (dialogue.run request).2.unread = []) := by
  rw [run, if_pos opened, awaitStop, unread_submit read performed]
  dsimp only
  cases ending with
  | pause stop reported idle =>
    rw [reported]
    refine ⟨fun _ => .waiting ?_ ?_ rfl, by rintro ⟨⟩⟩
    · rw [worker_hearStop, worker_submit performed, idle]
    · rw [isOpen_hearStop]
      exact opened
  | close event words reported last ended =>
    rw [reported]
    cases event with
    | stopped | evaluated | «variables» => cases last
    | terminated | failed =>
      cases last
      exact ⟨by rintro ⟨⟩, fun _ => ⟨⟨_, _, _, List.getLast?_concat, rfl, text_tell ..⟩, rfl⟩⟩
  | owed withheld reported stalled =>
    rw [reported]
    have silent : (dialogue.submit request).worker.hasEnded = false := by
      simp [worker_submit performed, Worker.hasEnded, stalled]
    simp only [hearStop, outcome?, silent, Bool.false_eq_true, if_false]
    exact ⟨by rintro ⟨⟩, by rintro ⟨⟩⟩

theorem inspect_opened {dialogue : Dialogue σ} (opened : dialogue.isOpen = true) (request : Nat → Request) {events : List Event}
    (unread : ({ dialogue with inspections := dialogue.inspections + 1 }.submit
      (request (dialogue.inspections + 1))).unread = events) :
    dialogue.inspect request =
      let told := ({ dialogue with inspections := dialogue.inspections + 1 }.submit
        (request (dialogue.inspections + 1))).hearAnswer (dialogue.inspections + 1) events
      (outcome? told.1 told.2, told.2) := by
  rw [← unread, inspect, if_pos opened]

/-- Of what a worker that waits makes of an inspection the answer is heard. The dialogue is not over with it, even if
the session is. -/
theorem inspect_waiting {dialogue : Dialogue σ} (opened : dialogue.isOpen = true) (read : dialogue.unread = [])
    {request : Nat → Request} {turn : Turn σ}
    (performed : dialogue.worker.perform false dialogue.breakpoints (request (dialogue.inspections + 1)) = turn)
    (ending : Worker.Inspection (dialogue.inspections + 1) turn) (events : List Event) :
    ((dialogue.inspect request).1 = none → Going (dialogue.inspect request).2 (events ++ turn.events)) ∧
      (dialogue.inspect request).1 ≠ some .finished := by
  let counted : Dialogue σ := { dialogue with inspections := dialogue.inspections + 1 }
  let asked := counted.submit (request (dialogue.inspections + 1))
  have worker : asked.worker = turn.worker := worker_submit performed
  -- The first report is the answer that the dialogue listens for, whatever comes behind it.
  have heard {event : Event} (answers : event.inspection? = some (dialogue.inspections + 1)) (behind : List Event) :
      (asked.hearAnswer (dialogue.inspections + 1) (event :: behind)).1 = .news ∧
        (asked.hearAnswer (dialogue.inspections + 1) (event :: behind)).2.unread = behind := by
    cases event with
    | stopped | terminated | failed => cases answers
    | evaluated | «variables» =>
      obtain rfl := Option.some.inj answers
      simp [hearAnswer]
  have inspected : dialogue.inspect request =
      let told := asked.hearAnswer (dialogue.inspections + 1) turn.events
      (outcome? told.1 told.2, told.2) := inspect_opened opened request (unread_submit read performed)
  rw [inspected]
  dsimp only
  cases ending with
  | answer event reported answers idle =>
    obtain ⟨news, rest⟩ := heard answers []
    rw [reported, news]
    refine ⟨fun _ => .waiting ?_ ?_ rest, by rintro ⟨⟩⟩
    · rw [worker_hearAnswer, worker, idle]
    · rw [isOpen_hearAnswer]
      exact opened
  | fatal event message reported answers regrets ended =>
    obtain ⟨news, rest⟩ := heard answers [.failed message]
    rw [reported, news]
    refine ⟨fun _ => .failed events event message ?_ rest rfl regrets, by rintro ⟨⟩⟩
    rw [worker_hearAnswer, worker, ended]
  | owed withheld reported stalled =>
    rw [reported]
    have silent : asked.worker.hasEnded = false := by simp [worker, Worker.hasEnded, stalled]
    simp only [hearAnswer, outcome?, silent, Bool.false_eq_true, if_false]
    exact ⟨by rintro ⟨⟩, by rintro ⟨⟩⟩

theorem obey_unasked (dialogue : Dialogue σ) {command : Command} (unasked : dialogue.request? command = none) :
    (dialogue.obey command).1 = none ∧ (dialogue.obey command).2.worker = dialogue.worker ∧
      (dialogue.obey command).2.isOpen = dialogue.isOpen ∧ (dialogue.obey command).2.unread = dialogue.unread := by
  cases command with
  | run | runTo | print | «variables» | quit => cases unasked
  | setBreakpoint line condition => cases condition <;> exact ⟨rfl, rfl, rfl, rfl⟩
  | removeBreakpoint => exact ⟨rfl, rfl, rfl, rfl⟩
  | frames =>
    obtain ⟨_, told⟩ := tellLines_eq dialogue (frameLines dialogue.frames)
    simp [obey, told]

theorem obey_closed (dialogue : Dialogue σ) (closed : dialogue.isOpen = false) {command : Command}
    {request : Request} (asked : dialogue.request? command = some request) (stays : command ≠ .quit) :
    (dialogue.obey command).1 = some .finished ∧ (dialogue.obey command).2.unread = dialogue.unread ∧
      (dialogue.obey command).2.text = dialogue.text := by
  cases command with
  | setBreakpoint | removeBreakpoint | frames => cases asked
  | quit => exact absurd rfl stays
  | run | runTo => simp [obey, run, closed]
  | print | «variables» => simp [obey, inspect, closed, text]

theorem unread_submit_ended {dialogue : Dialogue σ} (ended : dialogue.worker.activity = .ended) (request : Request) :
    (dialogue.submit request).unread = dialogue.unread := by
  simp [submit, Worker.perform, ended]

theorem obey_ended (dialogue : Dialogue σ) (ended : dialogue.worker.activity = .ended) (opened : dialogue.isOpen = true)
    {message : String} (unread : dialogue.unread = [.failed message]) {command : Command}
    {request : Request} (asked : dialogue.request? command = some request) (stays : command ≠ .quit) :
    (dialogue.obey command).1 = some .finished ∧ (dialogue.obey command).2.unread = [] ∧
      ∃ before, (dialogue.obey command).2.text = before ++ (failedMessage message ++ "\n") := by
  have runs (request : Request) : (dialogue.run request).1 = some .finished ∧ (dialogue.run request).2.unread = [] ∧
      ∃ before, (dialogue.run request).2.text = before ++ (failedMessage message ++ "\n") := by
    rw [run, if_pos opened, awaitStop, unread_submit_ended ended, unread]
    exact ⟨rfl, rfl, _, text_tell ..⟩
  have inspects (request : Nat → Request) : (dialogue.inspect request).1 = some .finished ∧
      (dialogue.inspect request).2.unread = [] ∧
      ∃ before, (dialogue.inspect request).2.text = before ++ (failedMessage message ++ "\n") := by
    rw [inspect_opened opened request ((unread_submit_ended ended _).trans unread)]
    exact ⟨rfl, rfl, _, text_tell ..⟩
  cases command with
  | setBreakpoint | removeBreakpoint | frames => cases asked
  | quit => exact absurd rfl stays
  | run | runTo => exact runs _
  | print | «variables» => exact inspects _

theorem obey_waiting (dialogue : Dialogue σ) (waits : dialogue.worker.activity = .idle) (opened : dialogue.isOpen = true)
    (read : dialogue.unread = []) {command : Command} {request : Request} (asked : dialogue.request? command = some request)
    (stays : command ≠ .quit) (events : List Event) :
    let later := events ++ (dialogue.worker.perform false dialogue.breakpoints request).events
    ((dialogue.obey command).1 = none → Going (dialogue.obey command).2 later) ∧
      ((dialogue.obey command).1 = some .finished →
        Told (dialogue.obey command).2 later ∧ (dialogue.obey command).2.unread = []) := by
  cases command with
  | setBreakpoint | removeBreakpoint | frames => cases asked
  | quit => exact absurd rfl stays
  | run mode =>
    cases asked
    exact run_waiting opened read rfl (Worker.runOver_perform waits _ (.inl ⟨_, rfl⟩)) events
  | runTo line =>
    cases asked
    exact run_waiting opened read rfl (Worker.runOver_perform waits _ (.inr ⟨_, rfl⟩)) events
  | print expression =>
    cases asked
    have inspected := inspect_waiting opened read rfl
      (Worker.inspection_perform waits dialogue.breakpoints _ (.inl ⟨expression, rfl⟩)) events
    exact ⟨inspected.1, fun finished => absurd finished inspected.2⟩
  | «variables» =>
    cases asked
    have inspected := inspect_waiting opened read rfl
      (Worker.inspection_perform waits dialogue.breakpoints _ (.inr rfl)) events
    exact ⟨inspected.1, fun finished => absurd finished inspected.2⟩

/-- One line more: a dialogue goes on, or what it says last depends on whether the worker still took requests. -/
theorem Going.takeBytes {dialogue : Dialogue σ} {events : List Event} (going : dialogue.Going events) (line : List UInt8) :
    let taken := (dialogue.tell menu).takeBytes line
    let later := events ++ dialogue.reportsOn line
    (taken.1 = none → Going taken.2 later) ∧ (taken.1 = some .finished → command? line ≠ some .quit →
      if dialogue.elapse.isOpen then Told taken.2 later ∧ taken.2.unread = [] else Untold taken.2 later) := by
  have going := going.elapse
  rw [← reportsOn_elapse dialogue line]
  simp only [Dialogue.takeBytes, elapse_tell]
  generalize dialogue.elapse = asking at going ⊢
  have aside {told : Dialogue σ} (worker : told.worker = asking.worker) (isOpen : told.isOpen = asking.isOpen)
      (unread : told.unread = asking.unread) : Going told events := by
    cases going with
    | waiting waits opened read => exact .waiting (worker ▸ waits) (isOpen ▸ opened) (unread ▸ read)
    | failed front answer message ended waiting reported regrets =>
      exact .failed front answer message (worker ▸ ended) (unread ▸ waiting) reported regrets
  simp only [reportsOn, command?]
  cases read : readByteLine line with
  | error fault => exact ⟨by rintro ⟨⟩, by rintro ⟨⟩⟩
  | ok text =>
    simp only [Dialogue.take]
    cases parsed : Command.parse? (String.ofList (trim text)) with
    | none =>
      simp only [Option.bind_none, List.append_nil]
      exact ⟨fun _ => aside rfl rfl rfl, by rintro ⟨⟩⟩
    | some command =>
      simp only [Option.bind_some]
      cases asked : asking.request? command with
      | none =>
        obtain ⟨goesOn, worker, isOpen, unread⟩ := obey_unasked (asking.tell menu) asked
        simp only [goesOn, List.append_nil]
        exact ⟨fun _ => aside worker isOpen unread, by rintro ⟨⟩⟩
      | some request =>
        dsimp only
        by_cases leaves : command = .quit
        · subst leaves
          exact ⟨by rintro ⟨⟩, fun _ stays => absurd rfl stays⟩
        cases going with
        | waiting waits opened read =>
          obtain ⟨goesOn, told⟩ := obey_waiting (asking.tell menu) waits opened read asked leaves events
          exact ⟨goesOn, fun finished _ => by rw [if_pos opened]; exact told finished⟩
        | failed front answer message ended unread reported regrets =>
          have silent : (asking.worker.perform false asking.breakpoints request).events = [] := by
            simp [Worker.perform, ended]
          rw [silent, List.append_nil]
          cases opened : asking.isOpen with
          | true =>
            obtain ⟨ends, read, before, said⟩ :=
              obey_ended (asking.tell menu) ended opened unread asked leaves
            rw [ends, if_pos rfl]
            refine ⟨by rintro ⟨⟩, fun _ _ => ⟨⟨.failed message, _, before, ?_, rfl, said⟩, read⟩⟩
            simp [reported]
          | false =>
            obtain ⟨ends, kept, same⟩ := obey_closed (asking.tell menu) opened asked leaves
            rw [ends, if_neg (by simp)]
            exact ⟨by rintro ⟨⟩, fun _ _ => ⟨front, answer, message, asking.text, reported, regrets, kept.trans unread,
              same.trans (text_tell ..)⟩⟩

theorem lag_obey (dialogue : Dialogue σ) (command : Command) : (dialogue.obey command).2.lag = dialogue.lag := by
  have runs (request : Request) : (dialogue.run request).2.lag = dialogue.lag := by
    unfold run
    split
    · obtain ⟨_, _, _, same⟩ := hearStop_eq (dialogue.submit request) (dialogue.submit request).unread
      rw [awaitStop, same]
      rfl
    · rfl
  have inspects (request : Nat → Request) : (dialogue.inspect request).2.lag = dialogue.lag := by
    let asked := { dialogue with inspections := dialogue.inspections + 1 }.submit (request (dialogue.inspections + 1))
    obtain ⟨_, _, same⟩ := hearAnswer_eq asked (dialogue.inspections + 1) asked.unread
    unfold inspect
    dsimp only
    split
    · rw [same]
      rfl
    · rfl
  cases command with
  | run | runTo => exact runs _
  | print | «variables» => exact inspects _
  | setBreakpoint _ condition => cases condition <;> rfl
  | removeBreakpoint | quit => rfl
  | frames =>
    obtain ⟨_, same⟩ := tellLines_eq dialogue (frameLines dialogue.frames)
    rw [obey, same]

theorem lag_takeBytes_le (dialogue : Dialogue σ) (line : List UInt8) : (dialogue.takeBytes line).2.lag ≤ dialogue.lag := by
  have elapses : dialogue.elapse.lag ≤ dialogue.lag := by
    unfold elapse
    split
    · exact Nat.sub_le ..
    · exact Nat.le_refl _
  unfold takeBytes take
  split
  · exact Nat.le_refl _
  · dsimp only
    split
    · exact Nat.le_trans (Nat.le_of_eq (lag_obey ..)) elapses
    · exact elapses

omit [Interpreter σ] in
theorem awaitStop_start (debuggee : Debuggee σ) (breakpoints : Breakpoints) (listing : List String) (lag : Nat) :
    let first := { start debuggee breakpoints listing with lag }
    (first.awaitStop.1 = none → Going first.awaitStop.2 first.unread) ∧
      (first.awaitStop.1 = some .finished → Told first.awaitStop.2 first.unread ∧ first.awaitStop.2.unread = []) := by
  intro first
  have begun : (∃ stop, first.unread = [.stopped stop] ∧ first.worker.activity = .idle) ∨ first.unread = [.terminated] := by
    simp only [first, start, Worker.start]
    split
    · exact .inl ⟨_, rfl, rfl⟩
    · exact .inr rfl
  rw [awaitStop]
  rcases begun with ⟨stop, unread, waits⟩ | unread
  · rw [unread]
    refine ⟨fun _ => .waiting ?_ ?_ rfl, by rintro ⟨⟩⟩
    · rw [worker_hearStop, waits]
    · exact isOpen_hearStop ..
  · rw [unread]
    exact ⟨by rintro ⟨⟩, fun _ => ⟨⟨_, _, _, rfl, rfl, text_tell ..⟩, rfl⟩⟩

section
variable {first : Dialogue σ} {lines : List (List UInt8)} {events : List Event} {taken : Option Outcome × Dialogue σ}

theorem Course.unique (course : Course first lines events taken) :
    ∀ {events' taken'}, Course first lines events' taken' → events' = events ∧ taken' = taken := by
  induction course with
  | begun =>
    intro events' taken' other
    generalize none : [] = lines at other
    cases other with
    | begun => exact ⟨rfl, rfl⟩
    | read => simp at none
  | @read lines events told before line ih =>
    intro events' taken' other
    generalize same : lines ++ [line] = all at other
    cases other with
    | begun => simp at same
    | read before' line' =>
      obtain ⟨rfl, last⟩ := List.append_inj' same rfl
      obtain rfl := List.singleton_inj.mp last
      obtain ⟨rfl, told⟩ := ih before'
      cases told
      exact ⟨rfl, rfl⟩

theorem Course.going {debuggee : Debuggee σ} {breakpoints : Breakpoints} {listing : List String} {lag : Nat}
    (course : Course { start debuggee breakpoints listing with lag } lines events taken) (goesOn : taken.1 = none) :
    taken.2.Going events := by
  induction course with
  | begun => exact (awaitStop_start debuggee breakpoints listing lag).1 goesOn
  | read before line ih => exact ((ih rfl).takeBytes line).1 goesOn

theorem Course.lag_le (course : Course first lines events taken) : taken.2.lag ≤ first.lag := by
  induction course with
  | begun =>
    obtain ⟨_, _, _, same⟩ := hearStop_eq first first.unread
    have kept : first.awaitStop.2.lag = first.lag := by rw [awaitStop, same]
    exact Nat.le_of_eq kept
  | read before line ih => exact Nat.le_trans (lag_takeBytes_le ..) ih

/-- A conversation is the course of some of its lines, or of all of them and the end of the input behind. -/
theorem Course.converse {dialogue : Dialogue σ} (course : Course first lines events (none, dialogue))
    (later : List (List UInt8)) :
    (∃ read events', read <+: later ∧
      Course first (lines ++ read) events' (some (dialogue.converse later).1, (dialogue.converse later).2)) ∨
    ∃ events' before, Course first (lines ++ later) events' (none, before) := by
  induction later generalizing lines events dialogue with
  | nil => exact .inr ⟨events, dialogue, by rwa [List.append_nil]⟩
  | cons line later ih =>
    have next := course.read line
    rw [Dialogue.converse]
    rcases took : (dialogue.tell menu).takeBytes line with ⟨_ | outcome, told⟩ <;> rw [took] at next
    · rcases ih next with ⟨read, events', start, finished⟩ | ⟨events', before, whole⟩
      · exact .inl ⟨line :: read, events', List.prefix_cons_iff.mpr (.inr ⟨read, rfl, start⟩), by simpa using finished⟩
      · exact .inr ⟨events', before, by simpa using whole⟩
    · exact .inl ⟨[line], _, List.prefix_append [line] later, next⟩

end

/-- The worker took no more requests when the last of these lines was read. -/
def ClosedBefore (first : Dialogue σ) (lines : List (List UInt8)) : Prop :=
  ∃ earlier line events before, lines = earlier ++ [line] ∧ Course first earlier events (none, before) ∧
    before.elapse.isOpen = false

/-- A worker that closes at once has closed exactly when it had ended behind an earlier line. -/
theorem closedBefore_start_iff (debuggee : Debuggee σ) (breakpoints : Breakpoints) (listing : List String)
    (lines : List (List UInt8)) : (start debuggee breakpoints listing).ClosedBefore lines ↔
      ∃ earlier line events before, lines = earlier ++ [line] ∧
        Course (start debuggee breakpoints listing) earlier events (none, before) ∧ before.worker.hasEnded = true := by
  refine exists_congr fun earlier => exists_congr fun line => exists_congr fun events => exists_congr fun before =>
    and_congr_right fun _ => and_congr_right fun course => ?_
  constructor
  · intro closed
    cases course.going rfl with
    | waiting waits opened =>
      rw [elapse_idle waits] at closed
      cases opened.symm.trans closed
    | failed front answer message ended => exact Worker.hasEnded_iff.mpr ended
  · intro ended
    have prompt : before.lag = 0 := Nat.le_zero.mp course.lag_le
    rw [elapse, if_pos ended]
    simp [prompt]

/-- What comes of some lines, as long as the dialogue goes on. -/
def follow (taken : Option Outcome × Dialogue σ) : List (List UInt8) → Option Outcome × Dialogue σ
  | [] => taken
  | line :: later =>
    match taken with
    | (none, told) => follow ((told.tell menu).takeBytes line) later
    | ended => ended

theorem Course.ending {debuggee : Debuggee σ} {breakpoints : Breakpoints} {listing : List String} {lag : Nat}
    {first : Dialogue σ} (fresh : first = { start debuggee breakpoints listing with lag })
    {lines : List (List UInt8)} {events : List Event} {told : Dialogue σ}
    (course : Course first lines events (some .finished, told))
    (stays : ∀ earlier line, lines = earlier ++ [line] → command? line ≠ some .quit) :
    (first.ClosedBefore lines ∧ Untold told events) ∨
      (¬ first.ClosedBefore lines ∧ Told told events ∧ told.unread = []) := by
  subst fresh
  generalize result : (some Outcome.finished, told) = taken at course
  cases course with
  | begun =>
    obtain ⟨finished, rfl⟩ := Prod.mk.inj result
    refine .inr ⟨?_, (awaitStop_start debuggee breakpoints listing lag).2 finished.symm⟩
    rintro ⟨_, _, _, _, some, _⟩
    simp at some
  | @read lines events before course line =>
    obtain ⟨finished, rfl⟩ := Prod.mk.inj result
    have ending := ((course.going rfl).takeBytes line).2 finished.symm (stays lines line rfl)
    split at ending
    next opened =>
      refine .inr ⟨?_, ending⟩
      rintro ⟨earlier, last, _, other, same, courseToo, closed⟩
      obtain ⟨rfl, _⟩ := List.append_inj' same rfl
      obtain ⟨_, rfl⟩ := Prod.mk.inj (course.unique courseToo).2
      cases opened.symm.trans closed
    next closed => exact .inl ⟨⟨lines, line, events, before, rfl, course, Bool.eq_false_iff.mpr closed⟩, ending⟩

end Console.Dialogue
end RStepper
