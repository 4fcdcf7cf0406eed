import Mathlib.Data.List.Pairwise
import RStepper.Proofs.EventCauses

/-! What the client is told of the program. Every pause and the end has a request of its own, or is the first
thing to be told, and the end comes last. -/

namespace RStepper

/-- The program stands or has ended. -/
def Event.isOutcome : Event → Bool
  | .stopped _ | .terminated | .failed _ => true
  | .evaluated .. | .variables .. => false

theorem Account.IsRun.isRun {σ : Type} {account : Account σ} (isRun : account.IsRun) : account.request.isRun = true := by
  rcases isRun with ⟨_, request⟩ | ⟨_, request⟩ <;> rw [request] <;> rfl

theorem Account.IsSettled.pairwise {σ : Type} [Interpreter σ] {account : Account σ} (settled : account.IsSettled) :
    (account.reports.map Report.event).Pairwise fun event later => ¬ (event.isOutcome = true ∧ later.isOutcome = true) := by
  have inspected {α : Type} {answer : Except String α → Event} {outcome : Except Failure α} {reports : List Report}
      (inspected : Inspected answer outcome reports) (calm : ∀ value, (answer value).isOutcome = false) :
      (reports.map Report.event).Pairwise fun event later => ¬ (event.isOutcome = true ∧ later.isOutcome = true) := by
    cases inspected <;> simp [calm]
  unfold Account.IsSettled at settled
  split at settled
  · obtain ⟨report, reports, _⟩ := settled
    simp [reports]
  · obtain ⟨report, reports, _⟩ := settled
    simp [reports]
  · exact inspected settled fun _ => rfl
  · exact inspected settled fun _ => rfl
  · simp [settled]

/-- Only runs lead to pauses, and none of them to the pause at the first statement. -/
theorem Account.IsSettled.stopped {σ : Type} [Interpreter σ] {account : Account σ} (settled : account.IsSettled) {stop : Stop}
    (reported : .stopped stop ∈ account.reports.map Report.event) : account.IsRun ∧ stop.reason ≠ .entry := by
  have run (run : ∃ report, account.reports = [report] ∧ report.event.EndsRun ∧ report.Calm) : stop.reason ≠ .entry := by
    obtain ⟨report, only, ends, _⟩ := run
    rw [only, List.map_singleton, List.mem_singleton] at reported
    rw [← reported] at ends
    exact ends
  have inspected {α : Type} {answer : Except String α → Event} {outcome : Except Failure α}
      (inspected : Inspected answer outcome account.reports) (goesOn : ∀ value, answer value ≠ .stopped stop) : False := by
    obtain ⟨report, member, same⟩ := List.mem_map.mp reported
    generalize account.reports = reports at inspected member
    cases inspected with
    | value | harmless =>
      obtain rfl := List.mem_singleton.mp member
      exact goesOn _ same
    | fatal =>
      rcases List.mem_cons.mp member with rfl | last
      · exact goesOn _ same
      · obtain rfl := List.mem_singleton.mp last
        dsimp only at same
        split at same <;> cases same
  unfold Account.IsSettled at settled
  split at settled
  next mode request => exact ⟨.inl ⟨mode, request⟩, run settled⟩
  next target request => exact ⟨.inr ⟨target, request⟩, run settled⟩
  next => exact (inspected settled nofun).elim
  next => exact (inspected settled nofun).elim
  next => simp [settled] at reported

namespace Adapter
variable {σ : Type}

/-- What the client is told of the program with a report. -/
def outcome? (announcesEntry : Bool) : Event → Option Content
  | .stopped stop =>
    if stop.reason = .entry ∧ !announcesEntry then none else some (.event "stopped" (some (Body.stopped stop)))
  | .terminated | .failed _ => some terminatedEvent
  | .evaluated .. | .variables .. => none

theorem isOutcome_of_outcome? {announcesEntry : Bool} {event : Event} {content : Content}
    (outcome : outcome? announcesEntry event = some content) : event.isOutcome = true := by
  cases event <;> first | rfl | cases outcome

theorem outcomes_tellings (announcesEntry : Bool) (report : Option Nat × Event) :
    outcomes (Ledger.tellings announcesEntry report) = ((outcome? announcesEntry report.2).map (report.1, ·)).toList := by
  obtain ⟨cause, event⟩ := report
  cases event with
  | stopped stop =>
    simp only [Ledger.tellings, forward, outcome?, Task.contents_own]
    split <;> rfl
  | terminated | failed => rfl
  | evaluated id answer => cases answer <;> rfl
  | _ id answer => cases answer <;> rfl

theorem outcomes_flatMap (announcesEntry : Bool) (reports : List (Option Nat × Event)) :
    outcomes (reports.flatMap (Ledger.tellings announcesEntry)) =
      reports.filterMap fun report => (outcome? announcesEntry report.2).map (report.1, ·) := by
  induction reports with
  | nil => rfl
  | cons report rest ih =>
    have first := outcomes_tellings announcesEntry report
    unfold outcomes at first ih ⊢
    rw [List.flatMap_cons, List.filter_append, first, ih, List.filterMap_cons]
    cases (outcome? announcesEntry report.2).map (report.1, ·) <;> rfl

namespace Ledger

/-- All that the client is told of the program, sooner or later. -/
def outcomes (announcesEntry : Bool) (ledger : Ledger σ) : List (Option Nat × Content) :=
  ledger.reports.filterMap fun report => (outcome? announcesEntry report.2).map (report.1, ·)

/-- No two reports of what has become of the program have the same cause. -/
def Distinct (ledger : Ledger σ) : Prop :=
  ledger.reports.Pairwise fun report later => report.2.isOutcome = true → later.2.isOutcome = true → report.1 ≠ later.1

theorem Distinct.only {ledger : Ledger σ} (distinct : ledger.Distinct) {cause : Option Nat} {event other : Event}
    (reported : (cause, event) ∈ ledger.reports) (otherReported : (cause, other) ∈ ledger.reports)
    (outcome : event.isOutcome = true) (otherOutcome : other.isOutcome = true) : event = other := by
  have symm : Std.Symm fun report later : Option Nat × Event =>
      report.2.isOutcome = true → later.2.isOutcome = true → report.1 ≠ later.1 :=
    ⟨fun _ _ apart first second same => apart second first same.symm⟩
  by_contra different
  refine List.Pairwise.forall distinct reported otherReported ?_ outcome otherOutcome rfl
  intro same
  exact different (Prod.mk.inj same).2

variable [Interpreter σ]

theorem Keeps.outcomes_forwarded {ledger : Ledger σ} {session : Session σ} (keeps : ledger.Keeps session) :
    Adapter.outcomes ledger.forwarded <+: ledger.outcomes session.announcesEntry := by
  have whole := congrArg Adapter.outcomes keeps.forwarded
  rw [outcomes_flatMap] at whole
  have told : Adapter.outcomes ledger.forwarded <+: ledger.told.filterMap fun report =>
      (outcome? session.announcesEntry report.2).map (report.1, ·) := by
    rw [← whole, Adapter.outcomes, Adapter.outcomes, List.filter_append]
    exact List.prefix_append _ _
  exact told.trans ((List.take_prefix ..).filterMap _)

theorem Keeps.endsLast {ledger : Ledger σ} {session : Session σ} (keeps : ledger.Keeps session)
    {before behind : List (Option Nat × Event)} {report : Option Nat × Event}
    (split : ledger.reports = before ++ report :: behind) (ends : report.2.EndsSession) : behind = [] := by
  have events := map_reports keeps.taken
  rw [split, List.map_append, List.map_cons] at events
  exact List.map_eq_nil_iff.mp (keeps.consistent.endsOnce _ _ _ events.symm ends)

theorem Keeps.terminated_last {ledger : Ledger σ} {session : Session σ} (keeps : ledger.Keeps session)
    {before behind : List (Option Nat × Content)} {cause : Option Nat}
    (split : ledger.outcomes session.announcesEntry = before ++ (cause, terminatedEvent) :: behind) : behind = [] := by
  obtain ⟨_, rest, reports, rfl, later⟩ := List.filterMap_eq_append_iff.mp split
  obtain ⟨silent, report, rest, rfl, _, told, rfl⟩ := List.filterMap_eq_cons_iff.mp later
  obtain ⟨content, outcome, same⟩ := Option.map_eq_some_iff.mp told
  cases same
  have ends : report.2.EndsSession := by
    obtain ⟨_, event⟩ := report
    cases event with
    | terminated | failed => trivial
    | stopped stop =>
      simp only [outcome?] at outcome
      split at outcome <;> simp [terminatedEvent] at outcome
    | _ => cases outcome
  rw [← List.append_assoc] at reports
  rw [keeps.endsLast reports ends, List.filterMap_nil]

theorem Keeps.unasked {ledger : Ledger σ} {session : Session σ} (keeps : ledger.Keeps session)
    (stops : ∀ request, (none, request) ∈ ledger.handed session → request = .stop) {account : Account σ}
    (taken : (none, account) ∈ ledger.taken.zip ledger.chronicle.accounts) : account.reports = [] := by
  have stop : account.request = .stop := by
    apply stops
    apply List.mem_append_right
    rw [List.zip_map_right]
    exact List.mem_map.mpr ⟨_, taken, rfl⟩
  rcases keeps.consistent.settled_or_pending account (List.of_mem_zip taken).2 with settled | ⟨silent, _⟩
  · simpa [Account.IsSettled, stop] using settled
  · exact silent

theorem Keeps.distinct {ledger : Ledger σ} {session : Session σ} (keeps : ledger.Keeps session)
    (ordered : ((ledger.handed session).filterMap Prod.fst).Pairwise (· > ·))
    (stops : ∀ request, (none, request) ∈ ledger.handed session → request = .stop) : ledger.Distinct := by
  have consistent := keeps.consistent
  have settled : ∀ account ∈ ledger.chronicle.accounts, account.IsSettled ∨ account.reports = [] := by
    intro account member
    exact (consistent.settled_or_pending account member).imp_right And.left
  have pairs : (ledger.taken.zip ledger.chronicle.accounts).Pairwise fun pair later =>
      ∀ place, pair.1 = some place → later.1 ≠ some place := by
    have taken := (List.pairwise_filterMap.mp ordered).sublist (List.sublist_append_right _ _)
    rw [List.zip_map_right, List.pairwise_map] at taken
    apply taken.imp
    intro pair later greater place first second
    exact absurd (greater place first place second) (Nat.lt_irrefl place)
  rw [Distinct, Ledger.reports, List.pairwise_append, List.pairwise_flatMap, List.pairwise_reverse]
  refine ⟨?_, ⟨?_, ?_⟩, ?_⟩
  · obtain ⟨opening, _⟩ | ⟨stop, opening⟩ := consistent.opening <;> simp [opening]
  · rintro ⟨cause, account⟩ member
    rw [List.pairwise_map]
    rcases settled account (List.of_mem_zip (List.mem_reverse.mp member)).2 with settled | silent
    · apply (List.pairwise_map.mp settled.pairwise).imp
      intro report later apart first second
      exact absurd ⟨first, second⟩ apart
    · simp [silent]
  · apply pairs.imp_of_mem
    rintro ⟨cause, account⟩ ⟨later, other⟩ member _ apart _ first _ second _ _ same
    obtain ⟨_, _, rfl⟩ := List.mem_map.mp first
    obtain ⟨report, inside, rfl⟩ := List.mem_map.mp second
    obtain rfl : later = cause := same
    cases later with
    | none => simp [keeps.unasked stops member] at inside
    | some place => exact apart place rfl rfl
  · intro _ early _ late _ _ same
    obtain ⟨_, _, rfl⟩ := List.mem_map.mp early
    obtain ⟨⟨cause, account⟩, member, inside⟩ := List.mem_flatMap.mp late
    obtain ⟨report, inside, rfl⟩ := List.mem_map.mp inside
    obtain rfl : none = cause := same
    simp [keeps.unasked stops (List.mem_reverse.mp member)] at inside

end Ledger

namespace History
variable [Interpreter σ] {history : History σ} {age : Nat} {session : Session σ} {ledger : Ledger σ}

omit [Interpreter σ] in
theorem InTurn.ordered_at (inTurn : history.InTurn) (session? : history.server.sessions[age]? = some session)
    (ledger? : history.ledgers[age]? = some ledger) : ((ledger.handed session).filterMap Prod.fst).Pairwise (· > ·) := by
  refine List.Pairwise.sublist (List.Sublist.filterMap _ (List.sublist_flatten_of_mem ?_)) inTurn.ordered
  exact List.mem_of_getElem? (i := age) (by simp [List.getElem?_zipWith, session?, ledger?])

omit [Interpreter σ] in
theorem InTurn.unasked (inTurn : history.InTurn) (session? : history.server.sessions[age]? = some session)
    (ledger? : history.ledgers[age]? = some ledger) : ∀ request, (none, request) ∈ ledger.handed session → request = .stop := by
  intro request handed
  cases inTurn.entitled none request (mem_handed session? ledger? handed)
  rfl

theorem InTurn.distinct (inTurn : history.InTurn) (session? : history.server.sessions[age]? = some session)
    (ledger? : history.ledgers[age]? = some ledger) (keeps : ledger.Keeps session) : ledger.Distinct :=
  keeps.distinct (inTurn.ordered_at session? ledger?) (inTurn.unasked session? ledger?)

theorem InTurn.run_of_stopped (inTurn : history.InTurn) (session? : history.server.sessions[age]? = some session)
    (ledger? : history.ledgers[age]? = some ledger) (keeps : ledger.Keeps session) {place : Nat} {stop : Stop}
    (reported : (some place, .stopped stop) ∈ ledger.reports) : place ∈ history.runs := by
  obtain ⟨none, _⟩ | ⟨account, pair, inside, handed⟩ := Ledger.handed_of_reports session reported
  · cases none
  have isRun : account.request.isRun = true := by
    rcases keeps.consistent.settled_or_pending account (List.of_mem_zip pair).2 with settled | ⟨silent, _⟩
    · exact (settled.stopped inside).1.isRun
    · simp [silent] at inside
  generalize account.request = request at isRun handed
  cases inTurn.entitled _ _ (mem_handed session? ledger? handed) with
  | run _ run => exact run
  | inspection _ asks =>
    cases request with
    | run | runTo => cases asks
    | _ => cases isRun

end History
end Adapter
end RStepper
