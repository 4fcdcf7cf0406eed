import RStepper.Proofs.StackInvariant
import RStepper.Proofs.WorkerHistory

/-! The protocol of a worker's reports. Every request that is accepted gets the reports that belong to it,
whatever the interpreter answers, and nothing follows the end of the session. -/

namespace RStepper
variable {σ α : Type}

/-- A report that the session is over. -/
def Event.EndsSession : Event → Prop
  | .terminated | .failed _ => True
  | .stopped _ | .evaluated .. | .variables .. => False

/-- A session that is being ended from outside does not fail. -/
def Report.Calm (report : Report) : Prop :=
  report.isStopping = true → ∀ message, report.event ≠ .failed message

/-- The reports of an inspection by what came of it: one answer, and the end of the session behind it if
there was a failure that is fatal. -/
inductive Inspected (answer : Except String α → Event) : Except Failure α → List Report → Prop where
  | value {value isStopping} : Inspected answer (.ok value) [⟨answer (.ok value), isStopping⟩]
  | harmless {failure isStopping} (kind : failure.isFatal = false) :
      Inspected answer (.error failure) [⟨answer (.error failure.message), isStopping⟩]
  | fatal {failure isStopping} (kind : failure.isFatal = true) :
      Inspected answer (.error failure) [⟨answer (.error failure.message), isStopping⟩,
        ⟨if isStopping then .terminated else .failed failure.message, isStopping⟩]

/-- Nothing comes behind the end of the session. -/
def EndsOnce (events : List Event) : Prop :=
  ∀ before event behind, events = before ++ event :: behind → event.EndsSession → behind = []

theorem EndsOnce.append {events later : List Event} (goesOn : ∀ event ∈ events, ¬ event.EndsSession)
    (once : EndsOnce later) : EndsOnce (events ++ later) := by
  intro before event behind split ends
  rcases List.append_eq_append_iff.mp split with ⟨middle, rfl, rest⟩ | ⟨middle, front, rest⟩
  · exact once middle event behind rest ends
  · cases middle with
    | nil => exact once [] event behind rest.symm ends
    | cons first middle =>
      cases rest
      exact absurd ends (goesOn event (by simp [front]))

theorem EndsOnce.singleton (event : Event) : EndsOnce [event] := by
  intro before other behind split _
  cases before with
  | nil =>
    cases split
    rfl
  | cons first before => simp at split

namespace Account

/-- The request ended the session, as a request to stop does without a report. -/
def Ends (account : Account σ) : Prop :=
  account.request = .stop ∨ ∃ report ∈ account.reports, report.event.EndsSession

def IsRun (account : Account σ) : Prop :=
  (∃ mode, account.request = .run mode) ∨ ∃ target, account.request = .runTo target

variable [Interpreter σ]

/-- The request got its reports. -/
def IsSettled (account : Account σ) : Prop :=
  match account.request with
  | .run _ | .runTo _ => ∃ report, account.reports = [report] ∧ report.event.EndsRun ∧ report.Calm
  | .evaluate id expression =>
    Inspected (.evaluated id) (account.before.during (Inspect.evaluate expression)).1 account.reports
  | .variables id => Inspected (.variables id) (account.before.during Inspect.visible).1 account.reports
  | .stop => account.reports = []

theorem isSettled_run {account : Account σ} {report : Report} (isRun : account.IsRun)
    (reports : account.reports = [report]) (ends : report.event.EndsRun) (calm : report.Calm) : account.IsSettled := by
  unfold IsSettled
  rcases isRun with ⟨_, request⟩ | ⟨_, request⟩ <;> rw [request] <;> exact ⟨report, reports, ends, calm⟩

end Account

theorem Inspected.reports {answer : Except String α → Event} {outcome : Except Failure α} {reports : List Report}
    (inspected : Inspected answer outcome reports) (goesOn : ∀ value, ¬ (answer value).EndsSession) :
    (∀ report ∈ reports, report.Calm) ∧ EndsOnce (reports.map Report.event) := by
  have calm (value : Except String α) (isStopping : Bool) : Report.Calm ⟨answer value, isStopping⟩ := by
    rintro _ message same
    exact goesOn value (by rw [show answer value = .failed message from same]; trivial)
  cases inspected with
  | value => exact ⟨by simpa using calm _ _, .singleton _⟩
  | harmless => exact ⟨by simpa using calm _ _, .singleton _⟩
  | @fatal failure isStopping =>
    constructor
    · intro report member
      rcases List.mem_cons.mp member with rfl | last
      · exact calm _ _
      · obtain rfl := List.mem_singleton.mp last
        intro stopping message
        simp [show isStopping = true from stopping]
    · have first : ∀ event ∈ [answer (.error failure.message)], ¬ event.EndsSession := by simpa using goesOn _
      exact .append first (.singleton _)

theorem Account.IsSettled.reports [Interpreter σ] {account : Account σ} (settled : account.IsSettled) :
    (∀ report ∈ account.reports, report.Calm) ∧ EndsOnce (account.reports.map Report.event) := by
  have single (run : ∃ report, account.reports = [report] ∧ report.event.EndsRun ∧ report.Calm) :
      (∀ report ∈ account.reports, report.Calm) ∧ EndsOnce (account.reports.map Report.event) := by
    obtain ⟨report, only, _, calm⟩ := run
    rw [only]
    exact ⟨by simpa using calm, .singleton _⟩
  unfold IsSettled at settled
  split at settled
  · exact single settled
  · exact single settled
  · exact settled.reports fun _ => id
  · exact settled.reports fun _ => id
  · rw [settled]
    exact ⟨by simp, by simp [EndsOnce]⟩

/-- What a worker does is what it owes to the newest request. -/
inductive Present [Interpreter σ] : Activity → List (Account σ) → Prop where
  | unasked : Present .idle []
  | waits {newest older} (settled : newest.IsSettled) (goesOn : ¬ newest.Ends) : Present .idle (newest :: older)
  | runs {run newest older} (isRun : newest.IsRun) (silent : newest.reports = []) :
      Present (.running run) (newest :: older)
  | stalls {withheld newest older} (asked : newest.request ≠ .stop) (silent : newest.reports = [])
      (settles : ({ newest with reports := withheld.map (⟨·, true⟩) } : Account σ).IsSettled)
      (ends : ({ newest with reports := withheld.map (⟨·, true⟩) } : Account σ).Ends) :
      Present (.stalled withheld) (newest :: older)
  | closed {newest older} (settled : newest.IsSettled) (ends : newest.Ends) : Present .ended (newest :: older)
  | never : Present .ended []

theorem Present.of_running [Interpreter σ] {run : Run} {accounts : List (Account σ)}
    (present : Present (.running run) accounts) :
    ∃ newest older, accounts = newest :: older ∧ newest.IsRun ∧ newest.reports = [] := by
  cases present with
  | runs isRun silent => exact ⟨_, _, rfl, isRun, silent⟩

/-- What is kept back is what the newest request is owed. -/
theorem Present.release [Interpreter σ] {withheld : List Event} {accounts : List (Account σ)}
    (present : Present (.stalled withheld) accounts) :
    Present .ended (Chronicle.noted withheld true accounts) := by
  cases present with
  | stalls asked silent settles ends =>
    rw [Chronicle.noted, silent]
    exact .closed settles ends

namespace Chronicle

theorem tail_noted (events : List Event) (isStopping : Bool) (accounts : List (Account σ)) :
    (noted events isStopping accounts).tail = accounts.tail := by
  cases accounts <;> rfl

variable [Interpreter σ]

structure Consistent (chronicle : Chronicle σ) : Prop where
  opening : (chronicle.opening = [.terminated] ∧ chronicle.worker.activity = .ended ∧ chronicle.accounts = []) ∨
    ∃ stop, chronicle.opening = [.stopped stop]
  past : ∀ account ∈ chronicle.accounts.tail, account.IsSettled ∧ ¬ account.Ends
  present : Present chronicle.worker.activity chronicle.accounts

theorem consistent_start (debuggee : Debuggee σ) (breakpoints : Breakpoints) : (start debuggee breakpoints).Consistent := by
  have started : (∃ stop, Worker.start debuggee = ([.stopped stop], ⟨debuggee, .idle⟩)) ∨
      Worker.start debuggee = ([.terminated], ⟨debuggee, .ended⟩) := by
    unfold Worker.start
    split
    · exact .inl ⟨_, rfl⟩
    · exact .inr rfl
  unfold start
  rcases started with ⟨stop, started⟩ | started <;> rw [started]
  · exact ⟨.inr ⟨stop, rfl⟩, by simp, .unasked⟩
  · exact ⟨.inl ⟨rfl, rfl, rfl⟩, by simp, .never⟩

theorem move_ended {chronicle : Chronicle σ} (ended : chronicle.worker.activity = .ended) (move : Move) :
    (chronicle.move move).worker = chronicle.worker ∧ (chronicle.move move).opening = chronicle.opening ∧
      (chronicle.move move).accounts = chronicle.accounts := by
  cases move with
  | request | leg => simp [Chronicle.move, ended]
  | alter | shutdown => exact ⟨rfl, rfl, rfl⟩
  | release =>
    unfold Chronicle.move
    dsimp only
    split
    · simp [Worker.release, ended, behind]
    · exact ⟨rfl, rfl, rfl⟩

theorem calm_endReport (isStopping : Bool) (failure : Failure) :
    Report.Calm ⟨Worker.endReport isStopping failure, isStopping⟩ := by
  intro stopping message
  simp [Worker.endReport, show isStopping = true from stopping]

theorem endsSession_endReport (isStopping : Bool) (failure : Failure) :
    (Worker.endReport isStopping failure).EndsSession := by
  unfold Worker.endReport
  split <;> trivial

theorem present_answer {request : Request} {debuggee : Debuggee σ} {report : Except String α → Event} {talk : Talk σ α}
    (isStopping : Bool) (older : List (Account σ)) (asked : request ≠ .stop)
    (goesOn : ∀ value, ¬ (report value).EndsSession)
    (kind : ∀ reports, Inspected report (debuggee.during talk).1 reports → Account.IsSettled ⟨request, debuggee, reports⟩) :
    let answered := Worker.answer isStopping report (debuggee.during talk)
    Present answered.2.activity (noted answered.1 isStopping (⟨request, debuggee, []⟩ :: older)) := by
  have answers := Worker.answer_answers isStopping report (debuggee.during talk)
  have waits (value : Except String α) :
      ¬ Account.Ends (⟨request, debuggee, [⟨report value, isStopping⟩]⟩ : Account σ) := by
    rintro (stop | ⟨_, member, ends⟩)
    · exact asked stop
    · obtain rfl := List.mem_singleton.mp member
      exact goesOn value ends
  generalize Worker.answer isStopping report (debuggee.during talk) = answered at answers ⊢
  generalize debuggee.during talk = outcome at answers kind
  cases answers with
  | tells => exact .waits (kind _ .value) (waits _)
  | regrets harmless => exact .waits (kind _ (.harmless harmless)) (waits _)
  | @fails failure _ fatal =>
    refine .closed (kind _ (.fatal fatal)) ?_
    exact .inr ⟨⟨Worker.endReport isStopping failure, isStopping⟩, by simp, endsSession_endReport isStopping failure⟩
  | stalls fatal =>
    refine .stalls asked (by simp) (kind _ (.fatal fatal)) ?_
    exact .inr ⟨⟨.terminated, true⟩, by simp, trivial⟩

theorem present_take (isStopping : Bool) (breakpoints : Breakpoints) (request : Request) (debuggee : Debuggee σ)
    (older : List (Account σ)) :
    let turn := Worker.take isStopping breakpoints request debuggee
    Present turn.worker.activity (noted turn.events isStopping (⟨request, debuggee, []⟩ :: older)) := by
  match request with
  | .run mode => exact .runs (.inl ⟨mode, rfl⟩) rfl
  | .runTo target => exact .runs (.inr ⟨target, rfl⟩) rfl
  | .evaluate id expression =>
    exact present_answer isStopping older nofun (fun _ ends => ends) fun _ inspected => inspected
  | .variables id => exact present_answer isStopping older nofun (fun _ ends => ends) fun _ inspected => inspected
  | .stop => exact .closed rfl (.inl rfl)

theorem present_step {newest : Account σ} (isStopping : Bool) (run : Run) (breakpoints : Breakpoints)
    (debuggee : Debuggee σ) (older : List (Account σ)) (isRun : newest.IsRun) (silent : newest.reports = []) :
    let turn := Worker.step isStopping run breakpoints debuggee
    Present turn.worker.activity (noted turn.events isStopping (newest :: older)) := by
  have turns := Worker.step_turns isStopping run breakpoints debuggee
  generalize Worker.step isStopping run breakpoints debuggee = turn at turns ⊢
  generalize Worker.leg run breakpoints debuggee = ended at turns
  have settled {event : Event} (ends : event.EndsRun) (calm : Report.Calm ⟨event, isStopping⟩) :
      Account.IsSettled { newest with reports := newest.reports ++ [⟨event, isStopping⟩] } :=
    Account.isSettled_run isRun (by rw [silent]; rfl) ends calm
  have goesOn : newest.request ≠ .stop := by
    rcases isRun with ⟨_, request⟩ | ⟨_, request⟩ <;> simp [request]
  have pauses (stop : Stop) : ¬ Account.Ends { newest with reports := newest.reports ++ [⟨.stopped stop, isStopping⟩] } := by
    rintro (asked | ⟨_, member, ends⟩)
    · exact goesOn asked
    · rw [silent] at member
      obtain rfl := List.mem_singleton.mp member
      exact ends
  cases turns with
  | goesOn => exact .runs isRun (by simp [silent])
  | arrives arrival =>
    exact .waits (settled (by rcases arrival with rfl | rfl <;> exact nofun) nofun) (pauses _)
  | interrupts => exact .waits (settled nofun nofun) (pauses _)
  | finishes => exact .closed (settled trivial nofun) (.inr ⟨⟨.terminated, isStopping⟩, by simp, trivial⟩)
  | @fails failure _ _ fatal =>
    refine .closed (settled (Worker.endsRun_endReport ..) (calm_endReport isStopping failure)) ?_
    exact .inr ⟨⟨Worker.endReport isStopping failure, isStopping⟩, by simp, endsSession_endReport ..⟩
  | stalls =>
    refine .stalls goesOn (by simp [silent]) (Account.isSettled_run isRun rfl trivial nofun) ?_
    exact .inr ⟨⟨.terminated, true⟩, by simp, trivial⟩

/-- A session that takes requests has settled all that it took before. -/
theorem Consistent.settled {chronicle : Chronicle σ} (consistent : chronicle.Consistent)
    (idle : chronicle.worker.activity = .idle) :
    ∀ account ∈ chronicle.accounts, account.IsSettled ∧ ¬ account.Ends := by
  have present := consistent.present
  have past := consistent.past
  rw [idle] at present
  generalize chronicle.accounts = accounts at present past ⊢
  cases present with
  | unasked => simp
  | waits settled goesOn =>
    intro account member
    rcases List.mem_cons.mp member with rfl | older
    · exact ⟨settled, goesOn⟩
    · exact past account older

theorem Consistent.opened {chronicle : Chronicle σ} (consistent : chronicle.Consistent)
    (going : chronicle.worker.activity ≠ .ended) : ∃ stop, chronicle.opening = [.stopped stop] := by
  obtain ⟨_, ended, _⟩ | opened := consistent.opening
  · exact absurd ended going
  · exact opened

theorem move_consistent {chronicle : Chronicle σ} (move : Move) (consistent : chronicle.Consistent) :
    (chronicle.move move).Consistent := by
  cases move with
  | request request =>
    cases activity : chronicle.worker.activity with
    | running | stalled | ended => simpa [Chronicle.move, activity] using consistent
    | idle =>
      rw [move_request activity]
      refine ⟨.inr (consistent.opened (by simp [activity])), consistent.settled activity, ?_⟩
      exact present_take _ _ _ _ _
  | leg =>
    cases activity : chronicle.worker.activity with
    | idle | stalled | ended => simpa [Chronicle.move, activity] using consistent
    | running run =>
      obtain ⟨newest, older, accounts, isRun, silent⟩ := (activity ▸ consistent.present).of_running
      rw [move_leg activity]
      refine ⟨.inr (consistent.opened (by simp [activity])), ?_, ?_⟩
      · simpa only [behind, tail_noted] using consistent.past
      · dsimp only [behind]
        rw [accounts]
        exact present_step _ _ _ _ _ isRun silent
  | alter | shutdown => exact ⟨consistent.opening, consistent.past, consistent.present⟩
  | release =>
    unfold Chronicle.move
    dsimp only
    split
    next stopping =>
      cases activity : chronicle.worker.activity with
      | idle | running | ended => simpa [Worker.release, behind, activity] using consistent
      | stalled withheld =>
        simp only [Worker.release, activity]
        refine ⟨.inr (consistent.opened (by simp [activity])), ?_, ?_⟩
        · simpa only [behind, tail_noted] using consistent.past
        · dsimp only [behind]
          rw [stopping]
          exact (activity ▸ consistent.present).release
    next => exact consistent

theorem moved_consistent (source : String) (interpreter : σ) (breakpoints : Breakpoints) (moves : List Move) :
    ((begin source interpreter breakpoints).moved moves).Consistent :=
  moved_induction (consistent_start (.start source interpreter) breakpoints) (fun _ => move_consistent) moves

/-- A request that still waits for its reports: the newest one, while the worker runs or waits for an answer
of the interpreter. -/
def Pending (chronicle : Chronicle σ) (account : Account σ) : Prop :=
  account.reports = [] ∧ chronicle.accounts.head? = some account ∧
    (chronicle.worker.isRunning = true ∨ ∃ withheld, chronicle.worker.activity = .stalled withheld)

theorem Consistent.settled_or_pending {chronicle : Chronicle σ} (consistent : chronicle.Consistent) :
    ∀ account ∈ chronicle.accounts, account.IsSettled ∨ chronicle.Pending account := by
  have present := consistent.present
  have past := consistent.past
  unfold Pending Worker.isRunning
  generalize chronicle.accounts = accounts at present past ⊢
  generalize chronicle.worker.activity = activity at present ⊢
  intro account member
  cases present with
  | unasked | never => simp at member
  | waits settled | closed settled =>
    rcases List.mem_cons.mp member with rfl | older
    · exact .inl settled
    · exact .inl (past account older).1
  | runs isRun silent =>
    rcases List.mem_cons.mp member with rfl | older
    · exact .inr ⟨silent, rfl, .inl rfl⟩
    · exact .inl (past account older).1
  | stalls asked silent =>
    rcases List.mem_cons.mp member with rfl | older
    · exact .inr ⟨silent, rfl, .inr ⟨_, rfl⟩⟩
    · exact .inl (past account older).1

theorem Consistent.ends {chronicle : Chronicle σ} (consistent : chronicle.Consistent) {account : Account σ}
    (member : account ∈ chronicle.accounts) (ends : account.Ends) : chronicle.worker.activity = .ended := by
  have present := consistent.present
  have past := consistent.past
  generalize chronicle.accounts = accounts at present past member
  generalize chronicle.worker.activity = activity at present ⊢
  cases present with
  | closed | never => rfl
  | unasked => simp at member
  | waits settled goesOn =>
    rcases List.mem_cons.mp member with rfl | older
    · exact absurd ends goesOn
    · exact absurd ends (past account older).2
  | runs isRun silent =>
    rcases List.mem_cons.mp member with rfl | older
    · rcases ends with asked | ⟨_, inside, _⟩
      · rcases isRun with ⟨_, request⟩ | ⟨_, request⟩ <;> cases request.symm.trans asked
      · simp [silent] at inside
    · exact absurd ends (past account older).2
  | stalls goesOn silent =>
    rcases List.mem_cons.mp member with rfl | older
    · rcases ends with asked | ⟨_, inside, _⟩
      · exact absurd asked goesOn
      · simp [silent] at inside
    · exact absurd ends (past account older).2

theorem Consistent.ended {chronicle : Chronicle σ} (consistent : chronicle.Consistent)
    (ends : (∃ event ∈ chronicle.events, event.EndsSession) ∨ ∃ account ∈ chronicle.accounts, account.request = .stop) :
    chronicle.worker.activity = .ended := by
  rcases ends with ⟨event, member, ends⟩ | ⟨account, member, asked⟩
  · rcases List.mem_append.mp member with early | late
    · obtain ⟨_, ended, _⟩ | ⟨stop, opening⟩ := consistent.opening
      · exact ended
      · rw [opening] at early
        obtain rfl := List.mem_singleton.mp early
        exact ends.elim
    · obtain ⟨account, inside, reported⟩ := List.mem_flatMap.mp late
      obtain ⟨report, sent, rfl⟩ := List.mem_map.mp reported
      exact consistent.ends (List.mem_reverse.mp inside) (.inr ⟨report, sent, ends⟩)
  · exact consistent.ends member (.inl asked)

theorem Consistent.endsOnce {chronicle : Chronicle σ} (consistent : chronicle.Consistent) : EndsOnce chronicle.events := by
  have settles := consistent.settled_or_pending
  have past := consistent.past
  unfold events
  cases accounts : chronicle.accounts with
  | nil =>
    obtain ⟨opening, _⟩ | ⟨stop, opening⟩ := consistent.opening <;> rw [opening] <;> exact .singleton _
  | cons newest older =>
    rw [accounts] at settles past
    obtain ⟨_, _, none⟩ | ⟨stop, opening⟩ := consistent.opening
    · cases accounts.symm.trans none
    rw [opening, List.reverse_cons, List.flatMap_append, ← List.append_assoc]
    apply EndsOnce.append
    · intro event member ends
      rcases List.mem_append.mp member with early | late
      · obtain rfl := List.mem_singleton.mp early
        exact ends
      · obtain ⟨account, inside, reported⟩ := List.mem_flatMap.mp late
        obtain ⟨report, sent, rfl⟩ := List.mem_map.mp reported
        exact (past account (List.mem_reverse.mp inside)).2 (.inr ⟨report, sent, ends⟩)
    · rw [List.flatMap_singleton]
      rcases settles newest List.mem_cons_self with settled | ⟨silent, _⟩
      · exact settled.reports.2
      · rw [silent]
        simp [EndsOnce]

theorem moved_ended {chronicle : Chronicle σ} (ended : chronicle.worker.activity = .ended) (moves : List Move) :
    (chronicle.moved moves).worker = chronicle.worker ∧ (chronicle.moved moves).events = chronicle.events ∧
      (chronicle.moved moves).accounts = chronicle.accounts := by
  have kept : (chronicle.moved moves).worker = chronicle.worker ∧ (chronicle.moved moves).opening = chronicle.opening ∧
      (chronicle.moved moves).accounts = chronicle.accounts := by
    apply moved_induction (motive := fun later => later.worker = chronicle.worker ∧ later.opening = chronicle.opening ∧
      later.accounts = chronicle.accounts)
    · exact ⟨rfl, rfl, rfl⟩
    · intro later move ⟨worker, opening, accounts⟩
      obtain ⟨sameWorker, sameOpening, sameAccounts⟩ := move_ended (worker ▸ ended) move
      exact ⟨sameWorker.trans worker, sameOpening.trans opening, sameAccounts.trans accounts⟩
  obtain ⟨worker, opening, accounts⟩ := kept
  exact ⟨worker, by rw [events, opening, accounts, events], accounts⟩

/-- What is owed while the interpreter gives no answer is sent when the session is ended from outside. -/
theorem Consistent.released {chronicle : Chronicle σ} (consistent : chronicle.Consistent)
    (resting : chronicle.worker.isRunning = false) :
    ∀ account ∈ (chronicle.moved [.shutdown, .release]).accounts, account.IsSettled := by
  have later : (chronicle.moved [.shutdown, .release]).Consistent :=
    move_consistent .release (move_consistent .shutdown consistent)
  intro account member
  rcases later.settled_or_pending account member with settled | ⟨_, _, busy⟩
  · exact settled
  · exfalso
    revert busy
    cases activity : chronicle.worker.activity <;>
      simp [moved, move, behind, Worker.release, Worker.isRunning, activity] at resting ⊢

theorem opening_move (chronicle : Chronicle σ) (move : Move) : (chronicle.move move).opening = chronicle.opening := by
  cases move with
  | alter | shutdown => rfl
  | request | leg | release =>
    dsimp only [Chronicle.move]
    split <;> rfl

theorem hasNext_ofSource (source : String) : (Stack.ofSource source).hasNext = false ↔
    ∀ line ∈ Script.linesOf source, Script.isIgnorable line = true := by
  have skipped (lines : List String) : (∀ line ∈ lines.dropWhile Script.isIgnorable, Script.isIgnorable line = true) ↔
      ∀ line ∈ lines, Script.isIgnorable line = true := by
    induction lines with
    | nil => rfl
    | cons line rest ih =>
      cases ignorable : Script.isIgnorable line with
      | true => simp [ignorable, ih]
      | false => simp [ignorable]
  have ended := (ScriptFrame.settled_settled ⟨.ofSource source, none⟩).isActive_eq_false
  have ahead : (ScriptFrame.settled ⟨.ofSource source, none⟩).script.ahead =
      (Script.linesOf source).dropWhile Script.isIgnorable := ScriptFrame.ahead_skipIgnorable (.ofSource source)
  rw [ahead, skipped] at ended
  exact ended

theorem opening_moved (source : String) (interpreter : σ) (breakpoints : Breakpoints) (moves : List Move) :
    ((begin source interpreter breakpoints).moved moves).opening =
      if ∀ line ∈ Script.linesOf source, Script.isIgnorable line = true then [.terminated]
      else [(Stack.ofSource source).stop .entry none] := by
  have begun : (begin source interpreter breakpoints).opening =
      if ∀ line ∈ Script.linesOf source, Script.isIgnorable line = true then [.terminated]
      else [(Stack.ofSource source).stop .entry none] := by
    cases hasNext : (Stack.ofSource source).hasNext with
    | false =>
      rw [if_pos ((hasNext_ofSource source).mp hasNext)]
      simp [begin, Worker.start, Debuggee.start, hasNext]
    | true =>
      rw [if_neg fun all => by simp [(hasNext_ofSource source).mpr all] at hasNext]
      simp [begin, Worker.start, Debuggee.start, hasNext]
  apply moved_induction (motive := fun later => later.opening = _) begun
  intro chronicle move same
  rw [opening_move, same]

/-- What a worker's reports keep to. -/
structure Protocol (chronicle : Chronicle σ) : Prop where
  /-- A request gets its reports, and no others. -/
  settled : ∀ account ∈ chronicle.accounts, account.IsSettled ∨ chronicle.Pending account
  /-- It is not without its reports for ever: a run is over after finitely many legs, and what an owed answer
  holds up is sent when the session is ended from outside. -/
  halts : ∃ count, (chronicle.moved (List.replicate count .leg)).worker.isRunning = false
  released : chronicle.worker.isRunning = false →
    ∀ account ∈ (chronicle.moved [.shutdown, .release]).accounts, account.IsSettled
  endsOnce : EndsOnce chronicle.events
  /-- Behind the end, or a request to stop, there are no more reports, requests and commands. -/
  closed : (∃ event ∈ chronicle.events, event.EndsSession) ∨ (∃ account ∈ chronicle.accounts, account.request = .stop) →
    ∀ later, (chronicle.moved later).events = chronicle.events ∧ (chronicle.moved later).accounts = chronicle.accounts ∧
      (chronicle.moved later).worker.debuggee = chronicle.worker.debuggee
  calm : ∀ account ∈ chronicle.accounts, ∀ report ∈ account.reports, report.Calm

theorem Consistent.protocol {chronicle : Chronicle σ} (consistent : chronicle.Consistent) : chronicle.Protocol where
  settled := consistent.settled_or_pending
  halts := by
    obtain ⟨count, _, _, resting, _⟩ := settle_legs chronicle
    exact ⟨count, resting⟩
  released := consistent.released
  endsOnce := consistent.endsOnce
  closed ends later := by
    obtain ⟨worker, events, accounts⟩ := moved_ended (consistent.ended ends) later
    exact ⟨events, accounts, by rw [worker]⟩
  calm account member := by
    rcases consistent.settled_or_pending account member with settled | ⟨silent, _⟩
    · exact settled.reports.1
    · simp [silent]

/-- The reports of a worker begin with its first pause, or with the end of a program that has no statement.
Whatever happens to the worker from then on and whatever its interpreter answers, they keep to the protocol,
and the failures that are fatal are all but the errors that the interpreter reports. -/
theorem reports_keep_protocol (source : String) (interpreter : σ) (breakpoints : Breakpoints) (moves : List Move) :
    let chronicle := (begin source interpreter breakpoints).moved moves
    chronicle.opening =
      (if ∀ line ∈ Script.linesOf source, Script.isIgnorable line = true then [.terminated]
        else [(Stack.ofSource source).stop .entry none]) ∧
    chronicle.Protocol ∧
    ∀ failure : Failure, failure.isFatal = true ↔ ∀ command line raw, failure ≠ .runtime command line raw := by
  intro chronicle
  refine ⟨opening_moved source interpreter breakpoints moves, ?_, ?_⟩
  · exact (moved_consistent source interpreter breakpoints moves).protocol
  · intro failure
    cases failure <;> simp [Failure.isFatal]

end Chronicle
end RStepper
