import RStepper.Interpreter.Scripted
import RStepper.Proofs.SentCommands
import RStepper.Proofs.StackInvariant

/-! Where the lines of the script go. Each one is sent once or skipped once, in order, and a line is
skipped only if it is no statement and no statement is waiting for it. -/

namespace RStepper
variable {σ : Type}

namespace Sending

/-- The command is not complete: the answer asks for another line, and there was no error. -/
def asksForMore (sending : Sending) : Bool :=
  match sending.reply with
  | .said body diagnostics =>
    (Response.classify (sending.command ++ "\n" ++ body)).any (·.kind == .continuation) &&
      (Diagnostics.runtimeError diagnostics).isNone
  | .closed | .pending => false

/-- The lines of the statement that some commands begin with: the first command, and each one behind an
answer that asks for more. -/
def statement : List Sending → List Sending
  | [] => []
  | sending :: rest => sending :: if sending.asksForMore then statement rest else []

end Sending

/-- How the script got past a line. -/
inductive Passage where
  | skipped (line : String)
  | sent (sending : Sending)

namespace Passage

def line : Passage → String
  | skipped line => line
  | sent sending => sending.command

def sending? : Passage → Option Sending
  | skipped _ => none
  | sent sending => some sending

theorem filterMap_skipped (gone : List String) : (gone.map skipped).filterMap sending? = [] := by
  simp [List.filterMap_map, sending?, Function.comp_def]

theorem filterMap_sent (given : List Sending) : (given.map sent).filterMap sending? = given := by
  simp [List.filterMap_map, sending?, Function.comp_def]

/-- The last one of some lines was sent, and its answer asks for more. -/
def Awaits (before : List Passage) (last : Sending) : Prop :=
  before.getLast? = some (.sent last) ∧ last.asksForMore = true

/-- Behind other lines, one is skipped only if it is no statement and stands where a statement could begin,
and one that is no statement is sent only right behind an answer that asks for it. -/
def Fair (before : List Passage) : Passage → Prop
  | skipped line => Script.isIgnorable line = true ∧ ∀ last, ¬ Awaits before last
  | sent sending => Script.isIgnorable sending.command = true →
      ∃ last, Awaits before last ∧ sending.position = last.position + 1

def AllFair (passages : List Passage) : Prop :=
  ∀ before passage behind, passages = before ++ passage :: behind → passage.Fair before

theorem AllFair.nil : AllFair [] := by
  intro before passage behind split
  simp at split

theorem AllFair.concat {passages : List Passage} {passage : Passage} (fair : AllFair passages)
    (next : passage.Fair passages) : AllFair (passages ++ [passage]) := by
  intro before other behind split
  rcases List.eq_nil_or_concat behind with rfl | ⟨middle, last, rfl⟩
  · obtain ⟨rfl, same⟩ := List.append_inj' split rfl
    cases same
    exact next
  · rw [List.concat_eq_append, ← List.cons_append, ← List.append_assoc] at split
    exact fair before other middle (List.append_inj' split rfl).1

theorem awaits_concat_sent {before : List Passage} {sending last : Sending} :
    Awaits (before ++ [.sent sending]) last ↔ sending = last ∧ last.asksForMore = true := by
  simp [Awaits]

theorem not_awaits_concat_skipped (before : List Passage) (line : String) (last : Sending) :
    ¬ Awaits (before ++ [.skipped line]) last := by
  simp [Awaits]

end Passage

open Passage

/-- The lines of a source, cut where the script is: the ones it passed, each of them fairly, and the ones
ahead. A statement that still waits for a line has run out of them. -/
structure Course (lines : List String) (passages : List Passage) (ahead : List String) : Prop where
  lines : passages.map Passage.line ++ ahead = lines
  fair : AllFair passages
  granted : ∀ last, Awaits passages last → ahead = []

namespace Course
variable {lines ahead left : List String} {passages : List Passage}

theorem start (lines : List String) : Course lines [] lines := ⟨rfl, .nil, by simp [Awaits]⟩

theorem skip {line : String} (course : Course lines passages (line :: ahead))
    (ignorable : Script.isIgnorable line = true) : Course lines (passages ++ [.skipped line]) ahead where
  lines := by simpa [Passage.line] using course.lines
  fair := course.fair.concat ⟨ignorable, fun last awaits => by cases course.granted last awaits⟩
  granted last awaits := absurd awaits (not_awaits_concat_skipped passages line last)

theorem skipIgnorable (course : Course lines passages ahead) :
    ∃ gone : List String, Course lines (passages ++ gone.map .skipped) (ahead.dropWhile Script.isIgnorable) := by
  induction ahead generalizing passages with
  | nil => exact ⟨[], by simpa using course⟩
  | cons line rest ih =>
    cases ignorable : Script.isIgnorable line with
    | false => exact ⟨[], by simpa [ignorable] using course⟩
    | true =>
      obtain ⟨gone, further⟩ := ih (course.skip ignorable)
      exact ⟨line :: gone, by simpa [ignorable] using further⟩

/-- Where the script moves on to a statement, it skips what is before that. -/
theorem settle {frame moved : ScriptFrame} (course : Course lines passages frame.script.ahead)
    (moves : moved = frame ∨ moved = frame.settled) :
    ∃ gone : List String, Course lines (passages ++ gone.map .skipped) moved.script.ahead := by
  rcases moves with rfl | rfl
  · exact ⟨[], by simpa using course⟩
  · obtain ⟨gone, further⟩ := course.skipIgnorable
    rw [← ScriptFrame.ahead_skipIgnorable] at further
    exact ⟨gone, further⟩

end Course

/-- A statement is given its lines, from `command` on and at most to the end of those behind it, and then
the debugger goes on with commands of its own; `left` are the lines that it was not given. -/
inductive Feeds : Nat → String → List String → List Sending → List String → Prop where
  | ends {position command reply ahead own} (complete : Sending.asksForMore ⟨command, reply, position⟩ = false)
      (service : ∀ other ∈ own, IsService other.command) :
      Feeds position command ahead (⟨command, reply, position⟩ :: own) ahead
  | runsOut {position command reply} (asks : Sending.asksForMore ⟨command, reply, position⟩ = true) :
      Feeds position command [] [⟨command, reply, position⟩] []
  | continues {position command reply line ahead more left}
      (asks : Sending.asksForMore ⟨command, reply, position⟩ = true) (behind : Feeds (position + 1) line ahead more left) :
      Feeds position command (line :: ahead) (⟨command, reply, position⟩ :: more) left

namespace Feeds
variable {position : Nat} {command : String} {ahead left : List String} {more : List Sending}

theorem own (feeds : Feeds position command ahead more left) :
    ∃ own, more = Sending.statement more ++ own ∧ ∀ other ∈ own, IsService other.command := by
  induction feeds with
  | @ends _ _ _ _ own complete service => exact ⟨own, by simp [Sending.statement, complete], service⟩
  | runsOut asks => exact ⟨[], by simp [Sending.statement], by simp⟩
  | continues asks behind ih =>
    obtain ⟨own, split, service⟩ := ih
    exact ⟨own, by simpa [Sending.statement, asks] using split, service⟩

theorem course {lines : List String} {passages : List Passage} (feeds : Feeds position command ahead more left)
    (read : passages.map Passage.line ++ command :: ahead = lines) (fair : AllFair passages)
    (first : Script.isIgnorable command = true → ∃ last, Awaits passages last ∧ position = last.position + 1) :
    Course lines (passages ++ (Sending.statement more).map .sent) left := by
  induction feeds generalizing passages with
  | ends complete service =>
    simp only [Sending.statement, complete, Bool.false_eq_true, if_false, List.map_cons, List.map_nil]
    refine ⟨by simpa [Passage.line] using read, fair.concat first, ?_⟩
    intro last awaits
    obtain ⟨rfl, asks⟩ := awaits_concat_sent.mp awaits
    simp [complete] at asks
  | runsOut asks =>
    simp only [Sending.statement, ite_self, List.map_cons, List.map_nil]
    exact ⟨by simpa [Passage.line] using read, fair.concat first, fun _ _ => rfl⟩
  | continues asks behind ih =>
    simp only [Sending.statement, asks, if_true, List.map_cons]
    rw [List.append_cons]
    apply ih
    · simpa [Passage.line] using read
    · exact fair.concat first
    · exact fun _ => ⟨_, awaits_concat_sent.mpr ⟨rfl, asks⟩, rfl⟩

end Feeds

namespace Talk
variable [Interpreter σ]

theorem asksForMore_eq (command : String) (channel : Channel σ) :
    (channel.sending command).asksForMore =
      match ((execute command : Talk σ Response).runOver channel).1 with
      | .ok response => response.kind == .continuation
      | .error _ => false := by
  rw [runOver_execute]
  unfold Sending.asksForMore Channel.sending
  dsimp only
  cases (channel.ask command).1 with
  | closed | pending => rfl
  | said body diagnostics =>
    dsimp only [receive]
    cases Response.classify (command ++ "\n" ++ body) with
    | none => rfl
    | some response =>
      cases Diagnostics.runtimeError diagnostics with
      | none => exact Bool.and_true _
      | some line => exact Bool.and_false _

theorem asksForMore_of_ok {command : String} {expected : List Kind} {channel later : Channel σ} {response : Response}
    (ran : (expecting command expected).runOver channel = (.ok response, later)) :
    (channel.sending command).asksForMore = (response.kind == .continuation) := by
  obtain ⟨found, middle, executed, placed⟩ := bind_ok ran
  rw [asksForMore_eq, executed]
  split at placed <;> cases placed
  rfl

theorem asksForMore_of_error {command : String} {expected : List Kind} {channel later : Channel σ} {failure : Failure}
    (place : Kind.continuation ∈ expected)
    (ran : (expecting command expected).runOver channel = (.error failure, later)) :
    (channel.sending command).asksForMore = false := by
  rw [asksForMore_eq]
  obtain executed | ⟨response, middle, executed, placed⟩ := bind_error ran
  · rw [executed]
  · rw [executed]
    split at placed
    · cases placed
    next misplaced =>
      have other : response.kind ≠ .continuation := fun same => misplaced (same ▸ place)
      simpa using other

end Talk

namespace ScriptFrame

/-- An act that leaves the script where it is and sends nothing but the debugger's own commands. -/
private abbrev Aside {α : Type} (act : Act ScriptFrame σ α) : Prop :=
  Act.Within (fun before after => after.frame = before.frame ∧ before.channel.Grows IsService after.channel) act

private theorem Aside.bind {α β : Type} {act : Act ScriptFrame σ α} {next : α → Act ScriptFrame σ β} (first : Aside act)
    (rest : ∀ value, Aside (next value)) : Aside (act >>= next) :=
  Act.Within.bind (fun begun ended => ⟨ended.1.trans begun.1, begun.2.trans ended.2⟩) first rest

private theorem aside_talk {α : Type} {conversation : Talk σ α} (sends : conversation.Sends IsService) :
    Aside (Act.talk conversation) :=
  fun scene => ⟨rfl, sends scene.channel⟩

private theorem aside_pure {α : Type} (value : α) : Aside (pure value : Act ScriptFrame σ α) :=
  fun _ => ⟨rfl, .refl _⟩

variable [Interpreter σ]

private theorem aside_descend : Aside (do descend; return true : Act ScriptFrame σ Bool) := by
  have pushed (callee : CallFrame) : Aside (Act.modifyChange fun change =>
      { change with entered := change.entered ++ [callee] } : Act ScriptFrame σ Unit) := fun _ => ⟨rfl, .refl _⟩
  exact .bind (.bind (aside_talk (CallFrame.sends_ofCall .service)) pushed) fun _ => aside_pure true

private theorem aside_finishStatement (response : Response) :
    Aside (do finishStatement response; return false : Act ScriptFrame σ Bool) := by
  have listed : Aside (Act.talk Instrument.loadFunctions : Act ScriptFrame σ Unit) :=
    aside_talk Instrument.sends_loadFunctions
  exact .bind (.bind (aside_talk (Talk.sends_emit _)) fun _ => listed) fun _ => aside_pure false

/-- Behind an answer that does not ask for more, a statement gets no further line. -/
private theorem aside_answered (response : Response) (more : Act ScriptFrame σ Bool)
    (other : response.kind ≠ .continuation) :
    Aside (match response.kind with
      | .continuation => more
      | .entering => do
        descend
        return true
      | _ => do
        finishStatement response
        return false) := by
  split
  next continued => exact absurd continued other
  · exact aside_descend
  · exact aside_finishStatement response

/-- Between two scenes a statement got its lines, beginning with `command`. -/
private def Given (command : String) (before after : Scene ScriptFrame σ) : Prop :=
  ∃ more, after.channel.sendings = before.channel.sendings ++ more ∧
    Feeds before.channel.sendings.length command before.frame.script.ahead more after.frame.script.ahead

private theorem given_line (command : String) (next : Response → Act ScriptFrame σ Bool) (scene : Scene ScriptFrame σ)
    (more : ∀ response channel, response.kind = .continuation → (scene.channel.sending command).asksForMore = true →
      channel.sendings = scene.channel.sendings ++ [scene.channel.sending command] →
      Given command scene ((next response).runOver { scene with channel }).2)
    (done : ∀ response, response.kind ≠ .continuation → Aside (next response)) :
    Given command scene ((Act.talk (Talk.expecting command statementKinds) >>= next).runOver scene).2 := by
  have sent := Talk.sendings_expecting command statementKinds scene.channel
  rw [Act.runOver_bind_talk]
  rcases asked : (Talk.expecting command statementKinds).runOver scene.channel with ⟨failure | response, channel⟩ <;>
    rw [asked] at sent
  · exact ⟨_, sent, .ends (Talk.asksForMore_of_error (by decide) asked) (by simp)⟩
  have asks := Talk.asksForMore_of_ok asked
  by_cases kind : response.kind = .continuation
  · exact more response channel kind (by simp [asks, kind]) sent
  · obtain ⟨same, own, grown, service⟩ := done response kind { scene with channel }
    refine ⟨scene.channel.sending command :: own, ?_, ?_⟩
    · rw [grown, sent, List.append_assoc, List.singleton_append]
    · have complete : (scene.channel.sending command).asksForMore = false := by simpa [asks] using kind
      rw [same]
      exact .ends complete service

theorem runStatement_feeds (command : String) (ahead : List String) {scene : Scene ScriptFrame σ}
    (front : scene.frame.script.ahead = ahead) :
    Given command scene ((runStatement command ahead).runOver scene).2 := by
  induction ahead generalizing command scene with
  | nil =>
    unfold runStatement
    apply given_line
    · intro response channel kind asks sent
      have behind : scene.frame.read.script.ahead = [] := by simp [read, Script.advance, front]
      rw [kind, Act.runOver_bind_modifyFrame]
      refine ⟨_, sent, ?_⟩
      change Feeds _ _ _ _ scene.frame.read.script.ahead
      rw [front, behind]
      exact .runsOut asks
    · exact fun response other => aside_answered response _ other
  | cons line rest ih =>
    unfold runStatement
    apply given_line
    · intro response channel kind asks sent
      let reading : Scene ScriptFrame σ := { scene with frame := scene.frame.read, channel }
      have behind : reading.frame.script.ahead = rest := by simp [reading, read, Script.advance, front]
      rw [kind, Act.runOver_bind_modifyFrame]
      obtain ⟨more, grown, feeds⟩ := ih line behind
      refine ⟨scene.channel.sending command :: more, ?_, ?_⟩
      · rw [grown, sent, List.append_assoc, List.singleton_append]
      · rw [sent, List.length_append, behind] at feeds
        rw [front]
        exact .continues asks feeds
    · exact fun response other => aside_answered response _ other

omit [Interpreter σ] in
theorem runOver_settling (act : Act ScriptFrame σ Bool) (scene : Scene ScriptFrame σ) :
    let done := (act.runOver scene).2
    let later := ((settling act).runOver scene).2
    later.channel = done.channel ∧ (later.frame = done.frame ∨ later.frame = done.frame.settled) := by
  unfold settling
  rw [Act.runOver_of]
  split <;> next ran =>
    rw [ran]
    simp

theorem advance_of_stands {frame : ScriptFrame} (stands : frame.script.skipIgnorable = frame.script) (change : StackChange)
    (channel : Channel σ) : (advance : Act ScriptFrame σ Unit).runOver ⟨frame, change, channel⟩ =
      (runFront frame.script frame.script.ahead).runOver ⟨frame, change, channel⟩ := by
  change (runFront frame.script.skipIgnorable frame.script.skipIgnorable.ahead).runOver _ = _
  rw [stands]

theorem advance_feeds {frame : ScriptFrame} {line : String} {rest : List String}
    (stands : frame.script.skipIgnorable = frame.script) (front : frame.script.ahead = line :: rest) (change : StackChange)
    (channel : Channel σ) :
    let later := ((advance : Act ScriptFrame σ Unit).runOver ⟨frame, change, channel⟩).2
    ∃ more left, later.channel.sendings = channel.sendings ++ more ∧ Feeds channel.sendings.length line rest more left := by
  let reading : Scene ScriptFrame σ := ⟨{ frame with script := frame.script.advance }, change, channel⟩
  have behind : reading.frame.script.ahead = rest := by simp [reading, Script.advance, front]
  obtain ⟨more, grown, feeds⟩ := runStatement_feeds line rest behind
  obtain ⟨sameChannel, _⟩ := runOver_settling (runStatement line rest) reading
  rw [advance_of_stands stands, front]
  exact ⟨more, _, (congrArg Channel.sendings sameChannel).trans grown, behind ▸ feeds⟩

/-- A step of the script sends one statement and then commands of the debugger's own, or nothing. -/
theorem advance_course {lines : List String} {passages : List Passage} (scene : Scene ScriptFrame σ)
    (course : Course lines passages scene.frame.script.ahead) :
    let later := ((advance : Act ScriptFrame σ Unit).runOver scene).2
    ∃ more own added, later.channel.sendings = scene.channel.sendings ++ more ∧
      more = Sending.statement more ++ own ∧ (∀ other ∈ own, IsService other.command) ∧
      Course lines (passages ++ added) later.frame.script.ahead ∧
      added.filterMap sending? = Sending.statement more := by
  obtain ⟨gone, course⟩ := course.skipIgnorable
  rw [← ahead_skipIgnorable] at course
  have started : (advance : Act ScriptFrame σ Unit).runOver scene =
      (runFront scene.frame.script.skipIgnorable scene.frame.script.skipIgnorable.ahead).runOver scene := rfl
  rw [started]
  cases front : scene.frame.script.skipIgnorable.ahead with
  | nil =>
    have ended : scene.frame.script.skipIgnorable.advance.ahead = [] := by simp [Script.advance, front]
    refine ⟨[], [], gone.map .skipped, (List.append_nil _).symm, rfl, by simp, ?_, filterMap_skipped gone⟩
    change Course _ _ scene.frame.script.skipIgnorable.advance.ahead
    rwa [ended, ← front]
  | cons line rest =>
    let reading : Scene ScriptFrame σ :=
      { scene with frame := { scene.frame with script := scene.frame.script.skipIgnorable.advance } }
    have behind : reading.frame.script.ahead = rest := by simp [reading, Script.advance, front]
    obtain ⟨more, grown, feeds⟩ := runStatement_feeds line rest behind
    rw [behind] at feeds
    have statement : Script.isIgnorable line = false := Script.ahead_skipIgnorable_head front
    have fed := feeds.course (front ▸ course.lines) course.fair (by simp [statement])
    obtain ⟨sameChannel, moves⟩ := runOver_settling (runStatement line rest) reading
    obtain ⟨passed, course⟩ := fed.settle moves
    obtain ⟨own, split, service⟩ := feeds.own
    refine ⟨more, own, gone.map .skipped ++ (Sending.statement more).map .sent ++ passed.map .skipped,
      (congrArg Channel.sendings sameChannel).trans grown, split, service, ?_, ?_⟩
    · simp only [List.append_assoc] at course ⊢
      exact course
    · simp only [List.filterMap_append, filterMap_skipped, filterMap_sent, List.nil_append, List.append_nil]

end ScriptFrame

theorem Stack.script_changed (stack : Stack) (change : StackChange) :
    (stack.changed change).script = stack.script ∨ (stack.changed change).script = stack.script.settled := by
  have resumed (line : Option Int) (moved : Stack) : (moved.resumedAt line).script = moved.script := by
    unfold resumedAt
    split <;> rfl
  change ((stack.unwound change.dropped).resumedAt change.returnLine).script = _ ∨
    ((stack.unwound change.dropped).resumedAt change.returnLine).script = _
  rw [resumed]
  unfold unwound
  split
  · exact .inl rfl
  · split
    · exact .inl rfl
    · dsimp only
      split
      · exact .inr rfl
      · exact .inl rfl

theorem Stack.Valid.ahead_eq_nil {source : String} {stack : Stack} (valid : stack.Valid source)
    (ended : stack.hasNext = false) : stack.script.script.ahead = [] := by
  cases calls : stack.calls with
  | nil =>
    have settled := valid.settled calls
    have ignorable := settled.isActive_eq_false.mp (by simpa [hasNext, calls] using ended)
    cases front : stack.script.script.ahead with
    | nil => rfl
    | cons line rest =>
      have statement := settled.isIgnorable_head front
      simp [ignorable line (by simp [front])] at statement
  | cons top below => simp [hasNext, calls, valid.top_active calls] at ended

namespace Debuggee
variable [Interpreter σ]

def adds (debuggee : Debuggee σ) (operation : Operation) : List Sending :=
  (debuggee.operate operation).channel.sendings.drop debuggee.channel.sendings.length

/-- The lines that the script gives to the interpreter in an operation: a step of the script begins with
them, and nothing else has any. -/
def given (debuggee : Debuggee σ) : Operation → List Sending
  | .advance => if debuggee.stack.calls.isEmpty then Sending.statement (debuggee.adds .advance) else []
  | .evaluate _ | .condition _ | .inspection => []

def givenIn (debuggee : Debuggee σ) : List Operation → List Sending
  | [] => []
  | operation :: rest => debuggee.given operation ++ (debuggee.operate operation).givenIn rest

theorem adds_of_sendings {debuggee : Debuggee σ} {operation : Operation} {more : List Sending}
    (sent : (debuggee.operate operation).channel.sendings = debuggee.channel.sendings ++ more) :
    debuggee.adds operation = more := by
  rw [adds, sent, List.drop_left]

theorem stepScript_course {lines : List String} {passages : List Passage} (debuggee : Debuggee σ)
    (course : Course lines passages debuggee.stack.script.script.ahead) :
    let later := debuggee.stepScript.2
    ∃ more own added, later.channel.sendings = debuggee.channel.sendings ++ more ∧
      more = Sending.statement more ++ own ∧ (∀ other ∈ own, IsService other.command) ∧
      Course lines (passages ++ added) later.stack.script.script.ahead ∧
      added.filterMap sending? = Sending.statement more := by
  obtain ⟨more, own, added, sent, split, service, moved, given⟩ :=
    ScriptFrame.advance_course ⟨debuggee.stack.script, .none, debuggee.channel⟩ course
  unfold stepScript
  rcases ran : (ScriptFrame.advance : Act ScriptFrame σ Unit).runOver ⟨debuggee.stack.script, .none, debuggee.channel⟩
    with ⟨failure | _, scene⟩ <;> rw [ran] at sent moved
  · exact ⟨more, own, added, sent, split, service, moved, given⟩
  · obtain ⟨gone, settled⟩ := moved.settle (Stack.script_changed { debuggee.stack with script := scene.frame } scene.change)
    refine ⟨more, own, added ++ gone.map .skipped, sent, split, service, ?_, ?_⟩
    · rwa [List.append_assoc] at settled
    · rw [List.filterMap_append, filterMap_skipped, List.append_nil, given]

theorem stepCall_course {lines : List String} {passages : List Passage} (debuggee : Debuggee σ) (top : CallFrame)
    (below : List CallFrame) (course : Course lines passages debuggee.stack.script.script.ahead) :
    let later := (debuggee.stepCall top below).2
    debuggee.channel.Grows IsService later.channel ∧
      ∃ gone : List String, Course lines (passages ++ gone.map .skipped) later.stack.script.script.ahead := by
  have serves := CallFrame.sends_advance .service ⟨top, .none, debuggee.channel⟩
  unfold stepCall
  rcases ran : (CallFrame.advance : Act CallFrame σ Unit).runOver ⟨top, .none, debuggee.channel⟩
    with ⟨failure | _, scene⟩ <;> rw [ran] at serves
  · exact ⟨serves, [], by simpa using course⟩
  · exact ⟨serves, course.settle (Stack.script_changed { debuggee.stack with calls := scene.frame :: below } scene.change)⟩

/-- What the script gives in an operation are the lines that it passes by sending them. -/
structure Fed (lines : List String) (passages : List Passage) (debuggee : Debuggee σ) (operation : Operation) : Prop where
  sent : (debuggee.operate operation).channel.sendings = debuggee.channel.sendings ++ debuggee.adds operation
  own : ∃ own, debuggee.adds operation = debuggee.given operation ++ own ∧
    ∀ other ∈ own, IsService other.command ∨ IsInspection other.command
  course : ∃ added, Course lines (passages ++ added) (debuggee.operate operation).stack.script.script.ahead ∧
    added.filterMap sending? = debuggee.given operation

theorem Fed.of_grows {lines : List String} {passages : List Passage} {debuggee : Debuggee σ} {operation : Operation}
    {allowed : String → Prop} (none : debuggee.given operation = [])
    (grows : debuggee.channel.Grows allowed (debuggee.operate operation).channel)
    (own : ∀ command, allowed command → IsService command ∨ IsInspection command)
    (course : ∃ gone : List String,
      Course lines (passages ++ gone.map .skipped) (debuggee.operate operation).stack.script.script.ahead) :
    debuggee.Fed lines passages operation := by
  obtain ⟨gone, course⟩ := course
  obtain ⟨more, sent, all⟩ := grows
  have added := adds_of_sendings sent
  refine ⟨added ▸ sent, ⟨more, by simp [added, none], fun other member => own _ (all other member)⟩, ?_⟩
  exact ⟨gone.map .skipped, course, by rw [none, filterMap_skipped]⟩

theorem operate_fed {lines : List String} {passages : List Passage} (debuggee : Debuggee σ) (operation : Operation)
    (course : Course lines passages debuggee.stack.script.script.ahead) : debuggee.Fed lines passages operation := by
  have inspects {α : Type} {talk : Talk σ α} (none : debuggee.given operation = [])
      (operated : debuggee.operate operation = (debuggee.during talk).2) (sends : talk.Sends IsInspection) :
      debuggee.Fed lines passages operation := by
    have grows : debuggee.channel.Grows IsInspection (debuggee.operate operation).channel :=
      operated ▸ sends debuggee.channel
    refine .of_grows none grows (fun _ => .inr) ⟨[], ?_⟩
    rw [operated, show (debuggee.during talk).2.stack = debuggee.stack from rfl]
    simpa using course
  cases operation with
  | evaluate expression => exact inspects rfl rfl (Inspect.sends_evaluate expression)
  | condition expression => exact inspects rfl rfl (Inspect.sends_conditionHolds expression)
  | inspection => exact inspects rfl rfl Inspect.sends_visible
  | advance =>
    by_cases next : debuggee.stack.hasNext = true
    · cases calls : debuggee.stack.calls with
      | nil =>
        have stepped : debuggee.operate .advance = debuggee.stepScript.2 := by simp [operate, advance, next, calls]
        obtain ⟨more, own, added, sent, split, service, moved, fed⟩ := debuggee.stepScript_course course
        rw [← stepped] at sent moved
        have adds := adds_of_sendings sent
        have given : debuggee.given .advance = Sending.statement more := by simp [Debuggee.given, calls, adds]
        refine ⟨adds ▸ sent, ⟨own, ?_, fun other member => .inl (service other member)⟩, added, moved, given ▸ fed⟩
        rw [adds, given]
        exact split
      | cons top below =>
        have stepped : debuggee.operate .advance = (debuggee.stepCall top below).2 := by simp [operate, advance, next, calls]
        obtain ⟨grows, moved⟩ := debuggee.stepCall_course top below course
        rw [← stepped] at grows moved
        exact .of_grows (by simp [given, calls]) grows (fun _ => .inl) moved
    · have rests : debuggee.operate .advance = debuggee := by simp [operate, advance, next]
      have adds : debuggee.adds .advance = [] := adds_of_sendings (by simp [rests])
      have none : debuggee.given .advance = [] := by simp [given, adds, Sending.statement]
      have grows : debuggee.channel.Grows IsService (debuggee.operate .advance).channel := rests.symm ▸ .refl _
      exact .of_grows none grows (fun _ => .inl) ⟨[], by simpa [rests] using course⟩

theorem history_fed {lines : List String} {passages : List Passage} (debuggee : Debuggee σ) (operations : List Operation)
    (course : Course lines passages debuggee.stack.script.script.ahead) :
    let later := operations.foldl operate debuggee
    ∃ more added, later.channel.sendings = debuggee.channel.sendings ++ more ∧
      Course lines (passages ++ added) later.stack.script.script.ahead ∧
      added.filterMap sending? = debuggee.givenIn operations ∧ (debuggee.givenIn operations).Sublist more := by
  induction operations generalizing debuggee passages with
  | nil => exact ⟨[], [], by simp, by simpa using course, rfl, .slnil⟩
  | cons operation rest ih =>
    obtain ⟨sent, ⟨own, split, _⟩, added, moved, given⟩ := operate_fed debuggee operation course
    obtain ⟨more, later, behind, further, rest, inside⟩ := ih (debuggee.operate operation) moved
    refine ⟨debuggee.adds operation ++ more, added ++ later, ?_, ?_, ?_, ?_⟩
    · rw [← List.append_assoc, ← sent]
      exact behind
    · rw [← List.append_assoc]
      exact further
    · rw [List.filterMap_append, given, rest, givenIn]
    · rw [givenIn, split]
      exact (List.sublist_append_left _ _).append inside

theorem after_fed (source : String) (interpreter : σ) (operations : List Operation) :
    let debuggee := after source interpreter operations
    let given := (start source interpreter).givenIn operations
    ∃ passages, Course (Script.linesOf source) passages debuggee.stack.script.script.ahead ∧
      passages.filterMap sending? = given ∧ given.Sublist debuggee.channel.sendings := by
  intro debuggee given
  obtain ⟨gone, begun⟩ := (Course.start (Script.linesOf source)).skipIgnorable
  have first : (start source interpreter).stack.script.script.ahead =
      (Script.linesOf source).dropWhile Script.isIgnorable := ScriptFrame.ahead_skipIgnorable (.ofSource source)
  rw [← first] at begun
  obtain ⟨more, added, sent, course, fed, inside⟩ := history_fed (start source interpreter) operations begun
  refine ⟨gone.map .skipped ++ added, course, ?_, ?_⟩
  · rw [List.filterMap_append, filterMap_skipped, fed, List.nil_append]
  · have logged : debuggee.channel.sendings = more := sent
    rwa [logged]

/-- In every state that a debuggee can reach, the lines of the source are the ones that the script passed,
in order, and then those ahead. It sent or skipped each line it passed, once and fairly; what it sent are
its lines and nothing else, in the order in which the interpreter got them; and behind the last statement
no line is left. Commands that are not its lines are the debugger's own. -/
theorem lines_fed_once (source : String) (interpreter : σ) (operations : List Operation) :
    let debuggee := after source interpreter operations
    let given := (start source interpreter).givenIn operations
    (∃ passages : List Passage,
      passages.map Passage.line ++ debuggee.stack.script.script.ahead = Script.linesOf source ∧
      passages.length = debuggee.stack.script.script.passed ∧
      passages.filterMap sending? = given ∧ given.Sublist debuggee.channel.sendings ∧ AllFair passages ∧
      (debuggee.stack.hasNext = false → passages.map Passage.line = Script.linesOf source)) ∧
    ∀ operation, ∃ own, debuggee.adds operation = debuggee.given operation ++ own ∧
      ∀ other ∈ own, IsService other.command ∨ IsInspection other.command := by
  intro debuggee given
  have valid : debuggee.stack.Valid source := after_valid source interpreter operations
  obtain ⟨passages, course, fed, inside⟩ := after_fed source interpreter operations
  have cut : passages.map Passage.line ++ debuggee.stack.script.script.ahead = Script.linesOf source := course.lines
  refine ⟨⟨passages, cut, ?_, fed, inside, course.fair, ?_⟩, fun operation => (operate_fed debuggee operation course).own⟩
  · have length := congrArg List.length cut
    have inSource := valid.reads.passed
    rw [valid.reads.ahead, List.length_append, List.length_map, List.length_drop] at length
    omega
  · intro ended
    rwa [valid.ahead_eq_nil ended, List.append_nil] at cut

/-- Between the lines of a statement, lines that are none are sent too. -/
example : ((start "x <- c(\n\n# one\n1)\n\ny" (⟨[⟨"Filter(", .said "character(0)\nBrowse[1]> " ""⟩],
      [.said "+ " "", .said "+ " "", .said "+ " "", .said "Browse[1]> " "", .said "Browse[1]> " ""], 0⟩ : Scripted)).givenIn
      [.advance, .advance]).map Sending.command = ["x <- c(", "", "# one", "1)", "y"] := by
  decide +kernel

end Debuggee
end RStepper
