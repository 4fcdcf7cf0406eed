import RStepper.Interpreter.Scripted
import RStepper.Proofs.FrameAnswers
import RStepper.Proofs.StackBodies

/-! The order of what a server writes. A request is answered once, by its own name; what a run leads to is told
behind the answer that grants it; the end of the program is told once, with no pause behind it; and the answer
to the request that ends the service is the last message of all. -/

namespace RStepper.Adapter
variable {σ : Type}

/-- The answer to a request that ends the service. -/
def Post.Concludes (post : Post) : Prop :=
  ∃ number command, post.message.content.answers? = some (number, command) ∧ Closing command

theorem Orderly.finished {request : Option (Nat × String)} {isBroken granted serving : Bool} {views : List (Content ⊕ LoopDeed σ)}
    (orderly : Orderly request isBroken ⟨false, granted, serving, .finished⟩ views) :
    views = if serving then [.inr .leave] else [] := by
  cases orderly with
  | left => rfl
  | leaves _ later =>
    cases later
    rfl

/-- A request that ends the service is answered when the session is over, and then the loop only leaves. -/
theorem Orderly.concludes {request : Option (Nat × String)} {isBroken : Bool} {stage : Stage} {content : Content}
    {views : List (Content ⊕ LoopDeed σ)} {number : Nat} {command : String}
    (orderly : Orderly request isBroken stage (.inl content :: views)) (answers : content.answers? = some (number, command))
    (closing : Closing command) : stage.phase = .finished ∧ views = if stage.serving then [.inr .leave] else [] := by
  cases orderly with
  | grants _ _ finished _ later | refuses _ finished later =>
    cases answers
    obtain rfl := finished closing
    exact ⟨rfl, later.finished⟩
  | greets => cases answers

namespace History

structure IsConcluded (history : History σ) : Prop where
  tasks : history.server.tasks.map Task.view = if history.server.isServing then [.inr .leave] else []
  finished : ∀ session ∈ history.server.sessions, session.isOver = true

/-- The client is told of the end of the service last of all. -/
structure Concludes (history : History σ) : Prop where
  last : ∀ before post behind, history.posts = before ++ post :: behind → post.Concludes → behind = []
  concluded : ∀ post ∈ history.posts, post.Concludes → history.IsConcluded

theorem IsConcluded.isReady {history : History σ} (concluded : history.IsConcluded) : history.isReady = false := by
  have tasks := concluded.tasks
  cases serving : history.server.isServing with
  | false => simp [History.isReady, serving]
  | true =>
    rw [serving] at tasks
    cases empty : history.server.tasks with
    | nil => simp [empty] at tasks
    | cons => simp [History.isReady, empty]

/-- What a client can rely on. -/
structure KeepsOrder (history : History σ) : Prop where
  written : history.posts.map Post.message = history.server.written
  once : (history.answered.map Prod.fst).Nodup
  named : history.answered ⊆ history.questions
  /-- An event that a request leads to comes behind the answer that grants the request. Only inspections are
  answered when they are done. -/
  granted : ∀ before post behind, history.posts = before ++ post :: behind → post.message.content.IsEvent →
    ∀ place request, post.cause = some place → history.asked[place]? = some request →
      ¬ Inspecting request.command → ∃ answer ∈ before, answer.Grants history.asked place
  /-- A request for the stack is answered with the frames that are looked up for it, and while no run is in progress
  these are the frames of the pause that was told of last. -/
  frames : ∀ post ∈ history.posts, post.message.content.IsStack → ∃ look ∈ history.looks, ∃ body,
    post.message.content = Adapter.granted look.number "stackTrace" (some body) ∧ Body.Lists body look.frames ∧
      history.Faithful look
  terminated : ∀ before post behind, history.posts = before ++ post :: behind → post.message.content = terminatedEvent →
    ∀ later ∈ behind, later.message.content.isOutcome = false
  last : ∀ before post behind, history.posts = before ++ post :: behind → post.Concludes → behind = []

variable [Interpreter σ]

theorem Happens.concluded {host : Host σ} {history later : History σ} (happens : Happens host history later)
    (concluded : history.IsConcluded) : later.posts = history.posts ∧ later.IsConcluded := by
  have tasks := concluded.tasks
  cases happens with
  | nothing => exact ⟨rfl, concluded⟩
  | reads ready | ends ready | breaks ready => cases concluded.isReady.symm.trans ready
  | @loopWrites wire rest writes =>
    have views := writes.views
    cases posted : Task.posted? history.server.tasks with
    | some message =>
      rw [posted, tasks] at views
      split at views <;> simp at views
    | none =>
      rw [posted] at views
      exact ⟨List.append_nil _, views.symm.trans tasks, concluded.finished⟩
  | @loopDoes deed rest more after held performed =>
    rw [held] at tasks
    split at tasks
    · obtain ⟨leaves, none⟩ := List.cons.inj tasks
      cases leaves
      cases performed
      exact ⟨rfl, none, concluded.finished⟩
    · cases tasks
  | workerWrites sessions first busy writes =>
    have finished := concluded.finished _ (sessions ▸ List.mem_cons_self)
    simp [Session.isOver, isDone_of_tasks busy] at finished
  | workerDoes sessions held =>
    have finished := concluded.finished _ (sessions ▸ List.mem_cons_self)
    simp [Session.isOver, isDone_of_tasks (held ▸ List.cons_ne_nil _ _)] at finished
  | works sessions remembered free worked =>
    have finished := concluded.finished _ (sessions ▸ List.mem_cons_self)
    simp [Session.isOver, isDone_of_work? worked] at finished
  | forwarderWrites session? ledger? busy writes =>
    cases (isOver_of_forwarding busy).symm.trans (concluded.finished _ (List.mem_of_getElem? session?))
  | showsFrames session? held | hangsUp session? held =>
    have finished := concluded.finished _ (List.mem_of_getElem? session?)
    cases (isOver_of_forwarding (held ▸ List.cons_ne_nil _ _)).symm.trans finished
  | hears session? ledger? free events heard =>
    have finished := concluded.finished _ (List.mem_of_getElem? session?)
    simp [Session.isOver, events, heard] at finished

/-- With one session, who is told of the end of the service is told so when nothing is left to do. -/
theorem Happens.concludes {host : Host σ} {history later : History σ} (happens : Happens host history later)
    (sound : history.Sound) (one : history.server.sessions.length ≤ 1) {post : Post} (posted : post ∈ later.posts)
    (concludes : post.Concludes) : post ∈ history.posts ∨ later.IsConcluded := by
  obtain ⟨number, command, answers, closing⟩ := concludes
  apply (happens.answers sound posted answers).imp_right
  rintro (inspects | writes)
  · rcases inspects with rfl | rfl <;> simp [Closing] at closing
  obtain ⟨stage, sound⟩ := sound
  have orderly := sound.orderly
  rw [writes.views] at orderly
  obtain ⟨finished, views⟩ := orderly.concludes answers closing
  constructor
  case tasks => rw [writes.serving, ← sound.serving, views]
  case finished =>
    rw [writes.sessions]
    intro session member
    obtain ⟨age, session?⟩ := List.mem_iff_getElem?.mp member
    obtain ⟨rfl, _⟩ := only_of_getElem? session? one
    obtain ⟨ledger, ledger?, _⟩ := sound.ledger session?
    have fits := (sound.held 0 session ledger session? ledger?).2
    rw [finished] at fits
    exact fits.1

theorem Happens.endsLast {host : Host σ} {history later : History σ} (happens : Happens host history later)
    (sound : history.Sound) (inTurn : history.InTurn) (one : history.server.sessions.length ≤ 1)
    (concludes : history.Concludes) : later.Concludes := by
  have rests (post : Post) (posted : post ∈ history.posts) (ends : post.Concludes) :=
    happens.concluded (concludes.concluded post posted ends)
  constructor
  case concluded =>
    intro post posted ends
    rcases happens.concludes sound one posted ends with old | now
    · exact (rests post old ends).2
    · exact now
  case last =>
    intro before post behind split ends
    obtain ⟨new, writes⟩ := happens.writes sound inTurn.entitled
    by_cases old : post ∈ history.posts
    · exact concludes.last before post behind ((rests post old ends).1 ▸ split) ends
    · rw [writes.posts] at split
      rcases split_append writes.single split with ⟨_, _, last⟩ | ⟨rest, split⟩
      · exact last
      · exact absurd (split ▸ List.mem_append_right _ List.mem_cons_self) old

theorem Warranted.terminated_last {history : History σ} (warranted : history.Warranted) (sound : history.Sound)
    (one : history.server.sessions.length ≤ 1) {before behind : List Post} {post : Post}
    (split : history.posts = before ++ post :: behind) (ends : post.message.content = terminatedEvent) :
    ∀ later ∈ behind, later.message.content.isOutcome = false := by
  obtain ⟨stage, sound⟩ := sound
  have told := warranted.told one
  have outcome : post.entry.2.isOutcome = true := by
    rw [Post.entry, ends]
    rfl
  have written : outcomes (history.posts.map Post.entry) =
      outcomes (before.map Post.entry) ++ (post.cause, terminatedEvent) :: outcomes (behind.map Post.entry) := by
    have first : outcomes (post.entry :: behind.map Post.entry) = post.entry :: outcomes (behind.map Post.entry) :=
      List.filter_cons_of_pos outcome
    rw [split, List.map_append, List.map_cons, outcomes, List.filter_append]
    change _ ++ outcomes (post.entry :: _) = _
    rw [first, Post.entry, ends]
    rfl
  rw [written] at told
  have silent : outcomes (behind.map Post.entry) = [] := by
    obtain ⟨_, ledgers⟩ | ⟨session, ledger, _, ledgers, keeps⟩ := sound.only one
    · simp [forwarded, ledgers, outcomes] at told
    · have wrote : history.forwarded = ledger.forwarded := by simp [forwarded, ledgers]
      obtain ⟨rest, whole⟩ := keeps.outcomes_forwarded
      rw [← wrote, ← told, List.append_assoc, List.cons_append] at whole
      exact (List.append_eq_nil_iff.mp (keeps.terminated_last whole.symm)).1
  intro later member
  have quiet := List.filter_eq_nil_iff.mp silent later.entry (List.mem_map_of_mem member)
  exact Bool.eq_false_iff.mpr quiet

/-- What the order of the messages rests on, of a server with one session. -/
structure IsOrderly (history : History σ) : Prop where
  shows : history.Shows
  looksUp : history.LooksUp
  faithful : history.server.sessions.length ≤ 1 → ∀ look ∈ history.looks, history.Faithful look
  concludes : history.server.sessions.length ≤ 1 → history.Concludes

omit [Interpreter σ] in
theorem orderly_begin (attached : Option (Debuggee σ × Bool)) : (begin attached).IsOrderly where
  shows := by cases attached <;> exact fun _ => rfl
  looksUp := by cases attached <;> simp [LooksUp, begin, Server.fresh, Server.attach]
  faithful := by simp [begin]
  concludes _ := ⟨by simp [begin], by simp [begin]⟩

theorem Happens.orderly {host : Host σ} {history later : History σ} (happens : Happens host history later)
    (sound : history.Sound) (inTurn : history.InTurn) (warranted : history.Warranted) (orderly : history.IsOrderly) :
    later.IsOrderly where
  shows := happens.shows sound orderly.shows
  looksUp := happens.looksUp sound orderly.looksUp
  faithful := happens.faithful sound inTurn warranted orderly.shows orderly.faithful
  concludes one := by
    have before : history.server.sessions.length ≤ 1 := Nat.le_trans happens.sessions_le one
    exact happens.endsLast sound inTurn before (orderly.concludes before)

/-- Whatever the client sends and in whatever order the threads take their steps: where the requests have
numbers of their own and there is one session, the order of the messages can be relied on. -/
theorem order_kept (host : Host σ) (attached : Option (Debuggee σ × Bool)) (occurrences : List Occurrence)
    (distinct : (((begin attached).moved host occurrences).asked.map Asked.number).Nodup)
    (one : ((begin attached).moved host occurrences).server.sessions.length ≤ 1) :
    ((begin attached).moved host occurrences).KeepsOrder := by
  have conserved := answers_conserved host attached occurrences
  obtain ⟨sound, _, warranted, orderly⟩ := warranted_induction (orderly_begin attached)
    (fun _ _ sound inTurn warranted (happens : Happens host _ _) => happens.orderly sound inTurn warranted) occurrences
  have questions : ((begin attached).moved host occurrences).questions.map Prod.fst =
      ((begin attached).moved host occurrences).asked.map Asked.number := List.map_map
  constructor
  case written => exact warranted.written
  case once =>
    rw [← questions, ← (conserved.map Prod.fst).nodup_iff, List.append_assoc, List.map_append] at distinct
    exact (List.nodup_append.mp distinct).1
  case named =>
    intro key answered
    exact conserved.subset (List.mem_append_left _ (List.mem_append_left _ answered))
  case granted =>
    intro before post behind split event place request cause read own
    rcases warranted.allowed before post behind split event place cause with allowed | ⟨other, same, command⟩
    · exact allowed
    · cases read.symm.trans same
      exact absurd command own
  case frames =>
    intro post posted stack
    obtain ⟨look, looked, answer⟩ := orderly.looksUp _ (List.mem_append_right _ (List.mem_map_of_mem posted)) stack
    exact ⟨look, looked, _, answer, Body.lists_stack _ _, orderly.faithful one look looked⟩
  case terminated =>
    intro before post behind split
    exact warranted.terminated_last sound one split
  case last => exact (orderly.concludes one).last

/-- A client that runs the first statement, looks at the stack and leaves. -/
def stepping : List Occurrence :=
  Occurrence.rounds 8 ++ [.asks 1 "next" none] ++ Occurrence.rounds 14 ++ [.asks 2 "stackTrace" none] ++
    Occurrence.rounds 8 ++ [.asks 3 "disconnect" none] ++ Occurrence.rounds 14

def attachedPair : Option (Debuggee Scripted × Bool) :=
  some (.start "x\ny" ⟨[⟨"Filter(", .said "character(0)\nBrowse[1]> " ""⟩], [.said "Browse[1]> " ""], 0⟩, true)

theorem stepping_keeps_order :
    (((begin attachedPair).moved barrenHost stepping).asked.map Asked.number).Nodup ∧
      ((begin attachedPair).moved barrenHost stepping).server.sessions.length ≤ 1 ∧
      ((begin attachedPair).moved barrenHost stepping).looks.map Look.frames = [[.inScript 2]] ∧
      ((begin attachedPair).moved barrenHost stepping).answered = [(1, "next"), (2, "stackTrace"), (3, "disconnect")] ∧
      ((begin attachedPair).moved barrenHost stepping).KeepsOrder := by
  have facts : (((begin attachedPair).moved barrenHost stepping).asked.map Asked.number).Nodup ∧
      ((begin attachedPair).moved barrenHost stepping).server.sessions.length ≤ 1 ∧
      ((begin attachedPair).moved barrenHost stepping).looks.map Look.frames = [[.inScript 2]] ∧
      ((begin attachedPair).moved barrenHost stepping).answered = [(1, "next"), (2, "stackTrace"), (3, "disconnect")] := by
    decide +kernel
  obtain ⟨distinct, one, looked, answered⟩ := facts
  exact ⟨distinct, one, looked, answered, order_kept barrenHost attachedPair stepping distinct one⟩

end History
end RStepper.Adapter
