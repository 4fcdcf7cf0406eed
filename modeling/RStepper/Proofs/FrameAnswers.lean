import Mathlib.Data.List.Induction
import RStepper.Proofs.BreakpointStops
import RStepper.Proofs.PauseTellings

/-! Where the program stands. The frames that a request is answered with are those of the pause that the client
was told of last, once every run that was begun has led to a pause or to the end. -/

namespace RStepper

namespace Adapter
variable {σ : Type}

def Content.isPause : Content → Bool
  | .event name _ => name == "stopped"
  | .request .. | .response .. => false

theorem isOutcome_of_isPause {content : Content} (pause : content.isPause = true) : content.isOutcome = true := by
  cases content with
  | event name body => simp_all [Content.isPause, Content.isOutcome]
  | _ => cases pause

def pauses (entries : List (Option Nat × Content)) : List (Option Nat × Content) :=
  entries.filter (·.2.isPause)

theorem pauses_append (first second : List (Option Nat × Content)) : pauses (first ++ second) = pauses first ++ pauses second :=
  List.filter_append ..

theorem pauses_outcomes (entries : List (Option Nat × Content)) : pauses (outcomes entries) = pauses entries := by
  rw [pauses, outcomes, List.filter_filter, pauses]
  apply List.filter_congr
  rintro ⟨cause, content⟩ _
  cases pause : content.isPause with
  | false => rfl
  | true => exact isOutcome_of_isPause pause

def framesOf (reports : List (Option Nat × Event)) : List Location :=
  (reports.filterMap fun report => Chronicle.stop? report.2).getLast?.elim [] Stop.frames

theorem framesOf_concat (reports : List (Option Nat × Event)) (report : Option Nat × Event) :
    framesOf (reports ++ [report]) = (Chronicle.stop? report.2).elim (framesOf reports) Stop.frames := by
  unfold framesOf
  cases stop : Chronicle.stop? report.2 <;> simp [stop]

theorem forward_showFrames {announcesEntry : Bool} {event : Event} {frames : List Location} {rest : List (Content ⊕ ForwarderDeed)}
    (suffix : .inr (.showFrames frames) :: rest <:+ (forward announcesEntry event).map Task.view) :
    .inr (.showFrames frames) :: rest = (forward announcesEntry event).map Task.view ∧
      ∃ stop, event = .stopped stop ∧ stop.frames = frames := by
  obtain ⟨front, whole⟩ := suffix
  have member : .inr (.showFrames frames) ∈ (forward announcesEntry event).map Task.view := by simp [← whole]
  cases event with
  | stopped stop =>
    have first : front = [] := by
      rcases front with _ | ⟨_, front⟩
      · rfl
      · unfold forward at whole
        dsimp only at whole
        split at whole <;> rcases front with _ | ⟨_, front⟩ <;> simp [Task.view] at whole
    rw [first] at whole
    refine ⟨whole, stop, rfl, ?_⟩
    cases whole
    rfl
  | _ => simp [forward, Task.view] at member

namespace Ledger

/-- The reports whose frames requests can see. -/
def shown (ledger : Ledger σ) (session : Session σ) : List (Option Nat × Event) :=
  match session.forwarding.map Task.view with
  | .inr (.showFrames _) :: _ => ledger.told.dropLast
  | _ => ledger.told

variable [Interpreter σ]

theorem Keeps.opening_first {ledger : Ledger σ} {session : Session σ} (keeps : ledger.Keeps session)
    (distinct : ledger.Distinct)
    {front back : List (Option Nat × Event)} {event : Event} (split : ledger.reports = front ++ (none, event) :: back)
    (outcome : event.isOutcome = true) : front = [] := by
  cases front with
  | nil => rfl
  | cons first front =>
    obtain ⟨early, opened, begins⟩ : ∃ early, early.isOutcome = true ∧ (none, early) = first := by
      rw [Ledger.reports] at split
      obtain ⟨opening, _⟩ | ⟨stop, opening⟩ := keeps.consistent.opening <;> rw [opening] at split <;>
        exact ⟨_, rfl, (List.cons.inj split).1⟩
    rw [Distinct, split, ← begins, List.cons_append, List.pairwise_cons] at distinct
    exact absurd rfl (distinct.1 (none, event) (List.mem_append_right _ List.mem_cons_self) opened outcome)

theorem Keeps.cause_entry {ledger : Ledger σ} {session : Session σ} (keeps : ledger.Keeps session) {cause : Option Nat} {stop : Stop}
    (reported : (cause, .stopped stop) ∈ ledger.reports) (entry : stop.reason = .entry) : cause = none := by
  obtain ⟨rfl, _⟩ | ⟨account, pair, inside, _⟩ := handed_of_reports session reported
  · rfl
  · exfalso
    rcases keeps.consistent.settled_or_pending account (List.of_mem_zip pair).2 with settled | ⟨silent, _⟩
    · exact (settled.stopped inside).2 entry
    · simp [silent] at inside

theorem Keeps.framesOf_told {ledger : Ledger σ} {session : Session σ} (keeps : ledger.Keeps session)
    (distinct : ledger.Distinct)
    {reports : List (Option Nat × Event)} (early : reports <+: ledger.reports) {entry : Option Nat × Content}
    (last : (pauses (reports.flatMap (tellings session.announcesEntry))).getLast? = some entry) :
    ∃ stop, entry.2 = .event "stopped" (some (Body.stopped stop)) ∧ (entry.1, .stopped stop) ∈ reports ∧
      framesOf reports = stop.frames := by
  induction reports using List.reverseRecOn with
  | nil => cases last
  | append_singleton reports report ih =>
    obtain ⟨cause, event⟩ := report
    rw [List.flatMap_append, List.flatMap_singleton, pauses_append, ← pauses_outcomes (tellings ..), outcomes_tellings] at last
    have passes (silent : pauses ((outcome? session.announcesEntry event).map (cause, ·)).toList = []) (other : Chronicle.stop? event = none) :
        ∃ stop, entry.2 = .event "stopped" (some (Body.stopped stop)) ∧
          (entry.1, .stopped stop) ∈ reports ++ [(cause, event)] ∧ framesOf (reports ++ [(cause, event)]) = stop.frames := by
      rw [silent, List.append_nil] at last
      obtain ⟨stop, told, member, frames⟩ := ih ((List.prefix_append _ _).trans early) last
      exact ⟨stop, told, List.mem_append_left _ member, by rw [framesOf_concat, other]; exact frames⟩
    cases event with
    | stopped stop =>
      -- A pause that is not told is the first one, and nothing was told before it.
      by_cases hidden : stop.reason = .entry ∧ !session.announcesEntry
      · have first : cause = none := keeps.cause_entry (early.subset (List.mem_append_right _ List.mem_cons_self)) hidden.1
        obtain ⟨back, split⟩ := early
        rw [List.append_assoc, first] at split
        have alone : reports = [] := keeps.opening_first distinct split.symm rfl
        have unsaid : outcome? session.announcesEntry (.stopped stop) = none := if_pos hidden
        rw [alone, unsaid] at last
        cases last
      · have said : outcome? session.announcesEntry (.stopped stop) =
            some (.event "stopped" (some (Body.stopped stop))) := if_neg hidden
        have kept : pauses [(cause, .event "stopped" (some (Body.stopped stop)))] =
            [(cause, .event "stopped" (some (Body.stopped stop)))] := rfl
        rw [said, Option.map_some, Option.toList_some, kept, List.getLast?_concat] at last
        cases last
        exact ⟨stop, rfl, List.mem_append_right _ List.mem_cons_self, framesOf_concat ..⟩
    | _ => exact passes rfl rfl

omit [Interpreter σ] in
theorem shown_of_other {ledger : Ledger σ} {session : Session σ}
    (other : ∀ frames rest, session.forwarding.map Task.view ≠ .inr (.showFrames frames) :: rest) :
    ledger.shown session = ledger.told := by
  unfold shown
  split
  next frames rest views => exact absurd views (other frames rest)
  · rfl

omit [Interpreter σ] in
theorem pauses_pending {announcesEntry : Bool} {event : Event} (cause : Option Nat) {contents : List Content}
    (suffix : contents <:+ Task.contents (forward announcesEntry event)) :
    pauses (contents.map (cause, ·)) = [] ∨
      (∃ stop, event = .stopped stop) ∧ contents = Task.contents (forward announcesEntry event) := by
  have passes (other : ∀ content ∈ Task.contents (forward announcesEntry event), content.isPause = false) :
      pauses (contents.map (cause, ·)) = [] := by
    rw [pauses, List.filter_eq_nil_iff]
    intro entry member
    obtain ⟨content, inside, rfl⟩ := List.mem_map.mp member
    simp [other content (suffix.subset inside)]
  cases event with
  | stopped stop =>
    have single : (Task.contents (forward announcesEntry (.stopped stop))).length ≤ 1 := by
      simp only [forward, Task.contents_own]
      split <;> simp
    cases contents with
    | nil => exact .inl rfl
    | cons content rest =>
      refine .inr ⟨⟨stop, rfl⟩, suffix.eq_of_length_le ?_⟩
      exact Nat.le_trans single (Nat.succ_pos _)
  | terminated => exact .inl (passes (by simp [forward, Content.isPause, terminatedEvent]))
  | failed => exact .inl (passes (by simp [forward, Content.isPause, terminatedEvent]))
  | evaluated id answer => cases answer <;> exact .inl (passes (by simp [forward, inspected, granted, refused, Content.isPause]))
  | _ id answer => cases answer <;> exact .inl (passes (by simp [forward, inspected, granted, refused, Content.isPause]))

theorem Keeps.forwarded_cases {ledger : Ledger σ} {session : Session σ} (keeps : ledger.Keeps session) :
    pauses ledger.forwarded = pauses ((ledger.shown session).flatMap (tellings session.announcesEntry)) ∨
      ∃ front cause stop, ledger.told = front ++ [(cause, .stopped stop)] ∧
        ledger.forwarded = front.flatMap (tellings session.announcesEntry) := by
  have whole := keeps.forwarded
  have suffix := keeps.forwarding
  cases latest : ledger.latest? with
  | none =>
    rw [latest] at suffix
    have free : session.forwarding = [] := List.map_eq_nil_iff.mp (List.suffix_nil.mp suffix)
    rw [free, Task.contents_nil, List.map_nil, List.append_nil] at whole
    left
    rw [shown_of_other (by simp [free]), whole]
  | some report =>
    obtain ⟨cause, event⟩ := report
    obtain ⟨front, told⟩ := List.getLast?_eq_some_iff.mp latest
    have current : ledger.latestCause = cause := by rw [Ledger.latestCause, latest]; rfl
    rw [latest] at suffix
    rw [current] at whole
    have untold (same : Task.contents session.forwarding = Task.contents (forward session.announcesEntry event)) :
        ledger.forwarded = front.flatMap (tellings session.announcesEntry) := by
      rw [same, told, List.flatMap_append, List.flatMap_singleton] at whole
      exact List.append_cancel_right whole
    by_cases shows : ∃ frames rest, session.forwarding.map Task.view = .inr (.showFrames frames) :: rest
    · obtain ⟨frames, rest, views⟩ := shows
      have all := (forward_showFrames (views ▸ suffix)).1
      left
      rw [untold (congrArg (List.filterMap Sum.getLeft?) (views.trans all))]
      simp [shown, views, told]
    · have pending : Task.contents session.forwarding <:+ Task.contents (forward session.announcesEntry event) :=
        suffix.filterMap _
      rcases pauses_pending cause pending with none | ⟨⟨stop, rfl⟩, all⟩
      · left
        rw [shown_of_other (fun frames rest views => shows ⟨frames, rest, views⟩), ← whole, pauses_append, none, List.append_nil]
      · exact .inr ⟨front, cause, stop, told, untold all⟩

/-- Requests see the frames of the pause that was told last, unless another one is about to be told. -/
theorem Keeps.framesOf_shown {ledger : Ledger σ} {session : Session σ} (keeps : ledger.Keeps session)
    (distinct : ledger.Distinct)
    (quiet : ∀ place stop, (some place, .stopped stop) ∈ ledger.reports →
      ∃ content, (some place, content) ∈ Adapter.outcomes ledger.forwarded)
    {entry : Option Nat × Content} (last : (pauses ledger.forwarded).getLast? = some entry) :
    ∃ stop, entry.2 = .event "stopped" (some (Body.stopped stop)) ∧ (entry.1, .stopped stop) ∈ ledger.reports ∧
      framesOf (ledger.shown session) = stop.frames := by
  have heard : ledger.told <+: ledger.reports := List.take_prefix ..
  rcases keeps.forwarded_cases with told | ⟨front, cause, stop, told, written⟩
  · have early : ledger.shown session <+: ledger.reports := by
      refine List.IsPrefix.trans ?_ heard
      unfold shown
      split
      · exact List.dropLast_prefix _
      · exact List.prefix_rfl
    rw [told] at last
    obtain ⟨stop, same, member, frames⟩ := keeps.framesOf_told distinct early last
    exact ⟨stop, same, early.subset member, frames⟩
  · -- The forwarder is about to tell of a pause. It has told of its run already, or the pause is the first one.
    exfalso
    obtain ⟨back, split⟩ := heard
    rw [told, List.append_assoc] at split
    cases cause with
    | none =>
      rw [written, keeps.opening_first distinct split.symm rfl] at last
      cases last
    | some place =>
      obtain ⟨content, said⟩ := quiet place stop (by simp [← split])
      rw [written, outcomes_flatMap] at said
      obtain ⟨report, member, same⟩ := List.mem_filterMap.mp said
      obtain ⟨_, outcome, same⟩ := Option.map_eq_some_iff.mp same
      obtain ⟨cause, rfl⟩ := Prod.mk.inj same
      rw [Distinct, ← split, List.pairwise_append] at distinct
      exact distinct.2.2 report member _ List.mem_cons_self (isOutcome_of_outcome? outcome) rfl cause

theorem Keeps.shown_writes {ledger : Ledger σ} {session : Session σ} (keeps : ledger.Keeps session) {wire later : Wire}
    {rest : List (Task ForwarderDeed)} (writes : Task.Writes wire later session.forwarding rest) (messages : List Message) :
    (ledger.wrote messages).shown { session with forwarding := rest } = ledger.shown session := by
  have views := writes.views
  cases posted : Task.posted? session.forwarding with
  | none =>
    rw [posted] at views
    unfold shown
    rw [views]
    rfl
  | some message =>
    rw [posted] at views
    have suffix := keeps.forwarding
    have before : ledger.shown session = ledger.told := shown_of_other (by simp [views])
    rw [before]
    apply shown_of_other
    intro frames more head
    cases latest : ledger.latest? with
    | none => simp [latest, views] at suffix
    | some report =>
      rw [latest, views] at suffix
      -- Frames are shown with nothing written before, and here a message was.
      have shorter := suffix.length_le
      have all := (forward_showFrames (head ▸ (List.suffix_cons _ _).trans suffix)).1
      rw [Option.elim_some, ← all, ← head] at shorter
      simp only [Option.toList_some, List.map_cons, List.map_nil, List.cons_append, List.nil_append, List.length_cons] at shorter
      omega

theorem Keeps.framesOf_showsFrames {ledger : Ledger σ} {session : Session σ} (keeps : ledger.Keeps session)
    {frames : List Location} {rest : List (Task ForwarderDeed)}
    (forwarding : session.forwarding = .own (.showFrames frames) :: rest) :
    framesOf (ledger.shown { session with forwarding := rest }) = frames := by
  have suffix := keeps.forwarding
  rw [forwarding] at suffix
  cases latest : ledger.latest? with
  | none => simp [latest] at suffix
  | some report =>
    rw [latest] at suffix
    obtain ⟨all, stop, event, same⟩ := forward_showFrames suffix
    obtain ⟨front, told⟩ := List.getLast?_eq_some_iff.mp latest
    rw [shown_of_other, told, framesOf_concat, event]
    · exact same
    · intro others more head
      have again := (forward_showFrames (head ▸ (List.suffix_cons _ _).trans suffix)).1
      have shorter := congrArg List.length (again.trans all.symm)
      rw [← head] at shorter
      simp at shorter

/-- A report is shown when it is taken, but the frames of a pause only as the next thing. -/
theorem Keeps.framesOf_hears {ledger : Ledger σ} {session : Session σ} (keeps : ledger.Keeps session) {event : Event}
    {rest : List Event} (events : session.events = event :: rest) (free : session.forwarding = []) :
    framesOf (({ ledger with heard := ledger.heard + 1 } : Ledger σ).shown
        { session with events := rest, forwarding := forward session.announcesEntry event }) =
      framesOf (ledger.shown session) := by
  obtain ⟨cause, _, _, _, told⟩ := keeps.next events
  have before : ledger.shown session = ledger.told := shown_of_other (by simp [free])
  have passes (other : Chronicle.stop? event = none)
      (calm : ∀ frames more, (forward session.announcesEntry event).map Task.view ≠ .inr (.showFrames frames) :: more) :
      framesOf (({ ledger with heard := ledger.heard + 1 } : Ledger σ).shown
        { session with events := rest, forwarding := forward session.announcesEntry event }) = framesOf ledger.told := by
    rw [shown_of_other calm, told, framesOf_concat, other]
    rfl
  rw [before]
  cases event with
  | stopped stop => simp [shown, forward, Task.view, told]
  | terminated => exact passes rfl (by simp [forward, Task.view])
  | failed => exact passes rfl (by simp [forward, Task.view])
  | evaluated => exact passes rfl (by simp [forward, Task.view])
  | _ => exact passes rfl (by simp [forward, Task.view])

end Ledger

def Look.answer (look : Look) : Content :=
  granted look.number "stackTrace" (some (Body.stack look.script look.frames))

def Content.IsStack (content : Content) : Prop :=
  ∃ number, content.answers? = some (number, "stackTrace")

theorem tasksFor_stack (host : Host σ) (server : Server σ) (number : Nat) (command : String) (arguments : Option Json) :
    ∀ content ∈ Task.contents (server.tasksFor host number command arguments), ¬ content.IsStack := by
  rintro content member ⟨other, answers⟩
  obtain ⟨view, inside, same⟩ := List.mem_filterMap.mp member
  obtain rfl := Sum.getLeft?_eq_some_iff.mp same
  have asked := (orderly_tasksFor host server number command arguments false).asked inside answers
  obtain rfl : command = "stackTrace" := congrArg Prod.snd (Option.some.inj asked)
  cases inside with
  | tail _ later => cases later

/-- Every run that was begun has led to a pause or to the end. -/
def Moment.IsQuiet (moment : Moment) : Prop :=
  ∀ place ∈ moment.runs, ∃ post ∈ moment.posts, post.cause = some place ∧ post.message.content.isOutcome = true

/-- The pause that the client was told of last. -/
def Moment.lastPause? (moment : Moment) : Option (Option Nat × Content) :=
  (pauses (moment.posts.map Post.entry)).getLast?

namespace History

def reports (history : History σ) : List (Option Nat × Event) :=
  history.ledgers.flatMap Ledger.reports

def shown (history : History σ) : List (Option Nat × Event) :=
  (List.zipWith Ledger.shown history.ledgers history.server.sessions).flatten

/-- Requests see the frames of the last pause that is shown. -/
def Shows (history : History σ) : Prop :=
  history.server.sessions.length ≤ 1 → history.server.frames = framesOf history.shown

/-- What was looked up is the pause that the client had been told of last, if no run was in progress. -/
def Faithful (history : History σ) (look : Look) : Prop :=
  look.time.IsQuiet → ∀ entry, look.time.lastPause? = some entry → ∃ stop,
    entry.2 = .event "stopped" (some (Body.stopped stop)) ∧ (entry.1, .stopped stop) ∈ history.reports ∧ look.frames = stop.frames

variable [Interpreter σ]

theorem Happens.shows {host : Host σ} {history later : History σ} (happens : Happens host history later)
    (sound : history.Sound) (showing : history.Shows) : later.Shows := by
  intro one
  have before : history.server.sessions.length ≤ 1 := Nat.le_trans happens.sessions_le one
  have frames := showing before
  obtain ⟨stage, sound⟩ := sound
  cases happens with
  | nothing | reads | ends | breaks | loopWrites => exact frames
  | @loopDoes deed rest more after tasks performed =>
    have newest := sound.newest
    cases deed with
    | submit request refusal =>
      obtain ⟨opened, rfl, rfl⟩ | ⟨opened, rfl, rfl⟩ := Server.perform?_submit performed
      case inr =>
        simp only [noteDeed, opened, Bool.false_eq_true, if_false]
        exact frames
      case inl =>
        simp only [noteDeed, opened, if_true]
        obtain ⟨none, _⟩ | ⟨session, former, ledger, older, sessions, ledgers, _⟩ := newest
        · simp [Server.session, none] at opened
        · simpa [shown, Server.mapSession, sessions, ledgers, Ledger.shown] using frames
    | setBreakpoints | stop | listen =>
      cases performed
      obtain ⟨sessions, ledgers⟩ | ⟨session, former, ledger, older, sessions, ledgers, _⟩ := newest <;>
        simpa [shown, noteDeed, Server.mapSession, sessions, ledgers, Ledger.shown] using frames
    | adopt debuggee stopsOnEntry showsOutput script =>
      cases performed
      obtain ⟨sessions, ledgers⟩ | ⟨_, _, _, _, sessions, _, _⟩ := newest
      · simpa [shown, noteDeed, sessions, ledgers, Ledger.shown, Ledger.start, Session.start, Ledger.told] using frames
      · simp [sessions] at one
    | tellStack | leave =>
      cases performed
      exact frames
    | awaitWorker =>
      obtain ⟨_, rfl, rfl⟩ := Server.perform?_awaitWorker performed
      exact frames
    | join =>
      obtain ⟨_, rfl, rfl⟩ := Server.perform?_join performed
      exact frames
  | workerWrites sessions first busy writes =>
    obtain ⟨older, ledgers⟩ := List.head?_eq_some_iff.mp first
    simpa [shown, History.post, sessions, ledgers, Ledger.shown] using frames
  | @workerDoes session former deed rest sessions tasks =>
    obtain ⟨none, _⟩ | ⟨session, former, ledger, older, present, ledgers, _⟩ := sound.newest
    · simp [none] at sessions
    · rw [present] at sessions
      cases sessions
      cases deed <;> simpa [shown, present, ledgers, Ledger.shown, Session.took] using frames
  | @works session former ledger older after left sessions ledgers free worked =>
    have newest := sound.breakpoints ledger (by rw [ledgers]; rfl)
    rw [← newest] at worked
    have keeps := (sound.held 0 session ledger (by rw [sessions]; rfl) (by rw [ledgers]; rfl)).1
    obtain ⟨_, _, events, reports⟩ := keeps.works free worked
    have told := Ledger.told_of_reports keeps.heard (ledger.work_heard session).1 reports
    have forwarding := (Ledger.forwarding_work? worked).2.2.1
    simpa [shown, sessions, ledgers, Ledger.shown, told, forwarding] using frames
  | @forwarderWrites age session ledger wire rest session? ledger? busy writes =>
    obtain ⟨rfl, sessions⟩ := only_of_getElem? session? before
    obtain ⟨_, ledgers⟩ := only_of_getElem? ledger? (sound.paired ▸ before)
    have keeps := (sound.held 0 session ledger session? ledger?).1
    simpa [shown, sessions, ledgers, History.post, keeps.shown_writes writes] using frames
  | @showsFrames age session frames rest session? forwarding =>
    obtain ⟨rfl, sessions⟩ := only_of_getElem? session? before
    obtain ⟨ledger, ledger?, keeps⟩ := sound.ledger session?
    obtain ⟨_, ledgers⟩ := only_of_getElem? ledger? (sound.paired ▸ before)
    simp [shown, sessions, ledgers, keeps.framesOf_showsFrames forwarding]
  | @hangsUp age session rest session? forwarding =>
    obtain ⟨rfl, sessions⟩ := only_of_getElem? session? before
    obtain ⟨ledger, ledger?, keeps⟩ := sound.ledger session?
    obtain ⟨_, ledgers⟩ := only_of_getElem? ledger? (sound.paired ▸ before)
    obtain ⟨rfl, _⟩ := keeps.endsBehind forwarding
    simpa [shown, sessions, ledgers, Ledger.shown, forwarding, Task.view] using frames
  | @hears age session ledger event rest session? ledger? free events heard =>
    obtain ⟨rfl, sessions⟩ := only_of_getElem? session? before
    obtain ⟨_, ledgers⟩ := only_of_getElem? ledger? (sound.paired ▸ before)
    have keeps := (sound.held 0 session ledger session? ledger?).1
    simpa [shown, sessions, ledgers, keeps.framesOf_hears events free] using frames

theorem Happens.reports {host : Host σ} {history later : History σ} (happens : Happens host history later)
    (sound : history.Sound) : history.reports ⊆ later.reports := by
  obtain ⟨stage, sound⟩ := sound
  have head {alter : Ledger σ → Ledger σ} (same : ∀ ledger, (alter ledger).reports = ledger.reports) :
      history.reports ⊆ (history.ledgers.modifyHead alter).flatMap Ledger.reports := by
    unfold History.reports
    cases history.ledgers with
    | nil => exact List.Subset.refl _
    | cons ledger older => simp [same]
  have set {age : Nat} {ledger after : Ledger σ} (ledger? : history.ledgers[age]? = some ledger)
      (same : after.reports = ledger.reports) : history.reports ⊆ (history.ledgers.set age after).flatMap Ledger.reports := by
    rw [List.flatMap_def, List.map_set, same, set_self (by simp [ledger?]), ← List.flatMap_def]
    exact List.Subset.refl _
  cases happens with
  | @loopDoes deed rest more after tasks performed =>
    cases deed with
    | submit request refusal =>
      dsimp only [noteDeed]
      split
      · exact head fun _ => rfl
      · exact List.Subset.refl _
    | setBreakpoints | stop => exact head fun _ => rfl
    | adopt => exact List.subset_append_right _ _
    | _ => exact List.Subset.refl _
  | @works session former ledger older after left sessions ledgers free worked =>
    have newest := sound.breakpoints ledger (by rw [ledgers]; rfl)
    rw [← newest] at worked
    have keeps := (sound.held 0 session ledger (by rw [sessions]; rfl) (by rw [ledgers]; rfl)).1
    obtain ⟨_, _, events, reports⟩ := keeps.works free worked
    simp [History.reports, ledgers, reports]
  | forwarderWrites session? ledger? | hears session? ledger? => exact set ledger? rfl
  | _ => exact List.Subset.refl _

/-- With one session, what is looked up now is the pause that the client was told of last. -/
theorem faithful_now {history : History σ} (sound : history.Sound) (inTurn : history.InTurn) (warranted : history.Warranted)
    (showing : history.Shows) (one : history.server.sessions.length ≤ 1) (number : Nat) :
    history.Faithful ⟨number, history.server.script, history.server.frames, history.now⟩ := by
  intro quiet entry last
  obtain ⟨stage, sound⟩ := sound
  have told := warranted.told one
  have said : pauses (history.posts.map Post.entry) = pauses history.forwarded := by
    rw [← pauses_outcomes, told, pauses_outcomes]
  change (pauses (history.posts.map Post.entry)).getLast? = some entry at last
  rw [said] at last
  obtain ⟨_, ledgers⟩ | ⟨session, ledger, sessions, ledgers, keeps⟩ := sound.only one
  · simp [forwarded, ledgers, pauses] at last
  have session? : history.server.sessions[0]? = some session := by rw [sessions]; rfl
  have ledger? : history.ledgers[0]? = some ledger := by rw [ledgers]; rfl
  have wrote : history.forwarded = ledger.forwarded := by simp [forwarded, ledgers]
  have frames : history.server.frames = framesOf (ledger.shown session) := by simpa [shown, sessions, ledgers] using showing one
  rw [wrote] at last told
  have answered : ∀ place stop, (some place, .stopped stop) ∈ ledger.reports →
      ∃ content, (some place, content) ∈ outcomes ledger.forwarded := by
    intro place stop reported
    obtain ⟨post, posted, cause, outcome⟩ := quiet place (inTurn.run_of_stopped session? ledger? keeps reported)
    refine ⟨post.message.content, ?_⟩
    rw [← told, ← cause]
    exact List.mem_filter.mpr ⟨List.mem_map_of_mem posted, outcome⟩
  obtain ⟨stop, content, reported, same⟩ :=
    keeps.framesOf_shown (inTurn.distinct session? ledger? keeps) answered last
  exact ⟨stop, content, by simpa [reports, ledgers] using reported, frames.trans same⟩

theorem Happens.looks {host : Host σ} {history later : History σ} (happens : Happens host history later) {look : Look}
    (looked : look ∈ later.looks) :
    look ∈ history.looks ∨ ∃ number, look = ⟨number, history.server.script, history.server.frames, history.now⟩ := by
  cases happens with
  | @loopDoes deed rest more after tasks performed =>
    cases deed with
    | tellStack number command =>
      rcases List.mem_append.mp looked with old | new
      · exact .inl old
      · exact .inr ⟨number, List.mem_singleton.mp new⟩
    | submit request refusal =>
      dsimp only [noteDeed] at looked
      split at looked <;> exact .inl looked
    | _ => exact .inl looked
  | _ => exact .inl looked

def LooksUp (history : History σ) : Prop :=
  ∀ content ∈ Task.contents history.server.tasks ++ history.posts.map (·.message.content), content.IsStack →
    ∃ look ∈ history.looks, content = look.answer

theorem Happens.looks_subset {host : Host σ} {history later : History σ} (happens : Happens host history later) :
    history.looks ⊆ later.looks := by
  cases happens with
  | @loopDoes deed rest more after tasks performed =>
    cases deed with
    | tellStack number command => exact List.subset_append_left _ _
    | submit request refusal =>
      dsimp only [noteDeed]
      split <;> exact List.Subset.refl _
    | _ => exact List.Subset.refl _
  | _ => exact List.Subset.refl _

theorem Happens.contents {host : Host σ} {history later : History σ} (happens : Happens host history later)
    (sound : history.Sound) {content : Content} (member : content ∈ Task.contents later.server.tasks) (stack : content.IsStack) :
    content ∈ Task.contents history.server.tasks ∨ ∃ look ∈ later.looks, content = look.answer := by
  obtain ⟨stage, sound⟩ := sound
  cases happens with
  | reads ready => exact absurd stack (tasksFor_stack _ _ _ _ _ content member)
  | ends | breaks => cases member
  | loopWrites writes =>
    left
    rw [writes.contents]
    exact List.mem_append_right _ member
  | @loopDoes deed rest more after tasks performed =>
    have orderly := sound.orderly
    rw [tasks] at orderly ⊢
    change Orderly _ _ _ (.inr deed :: rest.map Task.view) at orderly
    rcases List.mem_append.mp (Task.contents_append more rest ▸ member) with made | kept
    · cases deed with
      | tellStack number command =>
        cases performed
        cases orderly
        exact .inr ⟨_, List.mem_append_right _ List.mem_cons_self, List.mem_singleton.mp made⟩
      | submit request refusal =>
        obtain ⟨_, rfl, _⟩ | ⟨_, rfl, _⟩ := Server.perform?_submit performed
        · cases made
        · obtain ⟨number, answers⟩ := stack
          have regular : refusal.bind Content.answers? = request.asks? := orderly.regular
          cases refusal with
          | none => cases made
          | some answer =>
            obtain rfl := List.mem_singleton.mp made
            have asks : request.asks? = some (number, "stackTrace") := regular.symm.trans answers
            cases request <;> simp [Request.asks?] at asks
      | setBreakpoints | adopt | listen | stop | leave =>
        cases performed
        cases made
      | awaitWorker =>
        obtain ⟨_, rfl, _⟩ := Server.perform?_awaitWorker performed
        cases made
      | join =>
        obtain ⟨_, rfl, _⟩ := Server.perform?_join performed
        cases made
    · exact .inl kept
  | _ => exact .inl member

theorem Happens.looksUp {host : Host σ} {history later : History σ} (happens : Happens host history later)
    (sound : history.Sound) (looksUp : history.LooksUp) : later.LooksUp := by
  intro content member stack
  have older (old : content ∈ Task.contents history.server.tasks ++ history.posts.map (·.message.content)) :
      ∃ look ∈ later.looks, content = look.answer := by
    obtain ⟨look, looked, same⟩ := looksUp content old stack
    exact ⟨look, happens.looks_subset looked, same⟩
  rcases List.mem_append.mp member with ahead | written
  · rcases happens.contents sound ahead stack with before | made
    · exact older (List.mem_append_left _ before)
    · exact made
  · obtain ⟨post, posted, rfl⟩ := List.mem_map.mp written
    obtain ⟨number, answers⟩ := stack
    rcases happens.answers sound posted answers with old | inspects | writes
    · exact older (List.mem_append_right _ (List.mem_map_of_mem old))
    · simp [Inspecting] at inspects
    · apply older
      rw [Task.contents, writes.views]
      exact List.mem_cons_self

theorem Happens.faithful {host : Host σ} {history later : History σ} (happens : Happens host history later)
    (sound : history.Sound) (inTurn : history.InTurn) (warranted : history.Warranted) (showing : history.Shows)
    (faithful : history.server.sessions.length ≤ 1 → ∀ look ∈ history.looks, history.Faithful look) :
    later.server.sessions.length ≤ 1 → ∀ look ∈ later.looks, later.Faithful look := by
  intro one look member
  have before : history.server.sessions.length ≤ 1 := Nat.le_trans happens.sessions_le one
  have older (held : history.Faithful look) : later.Faithful look := by
    intro quiet entry last
    obtain ⟨stop, content, reported, frames⟩ := held quiet entry last
    exact ⟨stop, content, happens.reports sound reported, frames⟩
  apply older
  rcases happens.looks member with old | ⟨number, rfl⟩
  · exact faithful before look old
  · exact faithful_now sound inTurn warranted showing before number

end History
end Adapter
end RStepper
