import RStepper.Proofs.DebuggeeHistory
import RStepper.Proofs.WorkerHistory

/-! What the debugger's acts are built from: single commands, pieces of program output, and parts that
leave the channel alone. A part that fails ends the whole, unless the failure is caught. What holds of the
parts, and of putting them together, then holds of everything that the debugger does. -/

namespace RStepper
variable {φ σ α β : Type}

/-- The response that a command got, if it is complete. -/
def Sending.response? (sending : Sending) : Option Response :=
  match sending.reply with
  | .said body _ => Response.classify (sending.command ++ "\n" ++ body)
  | .closed | .pending => none

/-- What is said on the diagnostic stream is written down of every complete response. -/
theorem Talk.runOver_receive (command body diagnostics : String) (channel : Channel σ) :
    let raw := command ++ "\n" ++ body
    (receive command body diagnostics).runOver channel =
      match Response.classify raw with
      | none => (.error (.incomplete command raw), channel)
      | some response =>
        (((Diagnostics.runtimeError diagnostics).map (Failure.runtime command · raw)).elim (.ok response) .error,
          channel.write ⟨diagnostics, true⟩) := by
  unfold receive
  dsimp only
  cases Response.classify (command ++ "\n" ++ body) with
  | none => rfl
  | some response => cases Diagnostics.runtimeError diagnostics <;> rfl

theorem Talk.behind_execute [Interpreter σ] (command : String) (channel : Channel σ) :
    let later := ((execute command : Talk σ Response).runOver channel).2
    later = (channel.ask command).2 ∨ ∃ diagnostics, later = (channel.ask command).2.write ⟨diagnostics, true⟩ := by
  dsimp only
  rw [runOver_execute]
  split
  · rw [runOver_receive]
    split
    · exact .inl rfl
    · exact .inr ⟨_, rfl⟩
  · exact .inl rfl
  · exact .inl rfl

@[simp] theorem Channel.interpreter_write (channel : Channel σ) (record : Record) :
    (channel.write record).interpreter = channel.interpreter := by
  unfold write
  split <;> rfl

@[simp] theorem Channel.isStalled_write (channel : Channel σ) (record : Record) :
    (channel.write record).isStalled = channel.isStalled := by
  unfold write
  split <;> rfl

theorem Channel.records_write (channel : Channel σ) (record : Record) :
    (channel.write record).records = channel.records ++ if record.text = "" then [] else [record] := by
  unfold write
  split <;> simp [records, Happening.record?, *]

theorem Channel.records_ask [Interpreter σ] (channel : Channel σ) (command : String) :
    (channel.ask command).2.records = channel.records := by
  simp [ask, records, Happening.record?]

theorem Channel.interpreter_execute [Interpreter σ] (command : String) (channel : Channel σ) :
    ((Talk.execute command : Talk σ Response).runOver channel).2.interpreter = (channel.ask command).2.interpreter ∧
      ((Talk.execute command : Talk σ Response).runOver channel).2.isStalled = (channel.ask command).2.isStalled := by
  rcases Talk.behind_execute command channel with same | ⟨diagnostics, wrote⟩
  · rw [same]
    exact ⟨rfl, rfl⟩
  · rw [wrote]
    simp

/-- What an act may do besides asking the interpreter. -/
structure Means where
  prints : Bool
  /-- Go on behind an error that the interpreter reported. -/
  catches : Bool

namespace Act
variable [Interpreter σ]

/-- From this scene on, the act is built from commands, output and silent parts. -/
inductive Built (means : Means) : {φ α : Type} → Act φ σ α → Scene φ σ → Prop where
  | silent {φ α : Type} {act : Act φ σ α} {scene : Scene φ σ} {outcome frame change}
      (same : ∀ channel, act.runOver { scene with channel } = (outcome, ⟨frame, change, channel⟩)) :
      Built means act scene
  | prints {φ : Type} {scene : Scene φ σ} (may : means.prints = true) (text : String) :
      Built means (talk (Talk.emit text)) scene
  | asks {φ : Type} {scene : Scene φ σ} (command : String) : Built means (talk (Talk.execute command)) scene
  | bind {φ α β : Type} {act : Act φ σ α} {next : α → Act φ σ β} {scene : Scene φ σ} (first : Built means act scene)
      (rest : ∀ value later, act.runOver scene = (.ok value, later) → Built means (next value) later) :
      Built means (act >>= next) scene
  | catching {φ α : Type} {conversation : Talk σ α} {handle : Failure → Talk σ α} {scene : Scene φ σ}
      (may : means.catches = true) (fatal : ∀ failure, failure.isFatal = true → handle failure = throw failure)
      (first : Built means (talk conversation : Act φ σ α) scene)
      (rest : ∀ failure channel, conversation.runOver scene.channel = (.error failure, channel) →
        Built means (talk (handle failure) : Act φ σ α) { scene with channel }) :
      Built means (talk (tryCatch conversation handle)) scene
  /-- Another act on a frame of its own, whose end is made into this one's and whose failures are kept. -/
  | around {φ ψ α β : Type} {inner : Act ψ σ β} {outer : Act φ σ α} {scene : Scene φ σ} {frame : ψ} {change : StackChange}
      (finish : Except Failure β → ψ → StackChange → Except Failure α × φ × StackChange)
      (fails : ∀ failure frame change, (finish (.error failure) frame change).1 = .error failure)
      (inside : Built means inner ⟨frame, change, scene.channel⟩)
      (same : ∀ channel, outer.runOver { scene with channel } =
        let (outcome, later) := inner.runOver ⟨frame, change, channel⟩
        let (ended, frame, change) := finish outcome later.frame later.change
        (ended, ⟨frame, change, later.channel⟩)) :
      Built means outer scene

variable {means : Means}

theorem built_pure (value : α) (scene : Scene φ σ) : Built means (pure value) scene := .silent fun _ => rfl

theorem built_throw (failure : Failure) (scene : Scene φ σ) : Built means (throw failure : Act φ σ α) scene :=
  .silent fun _ => rfl

theorem built_frame (scene : Scene φ σ) : Built means frame scene := by
  have same (channel : Channel σ) :
      frame.runOver { scene with channel } = (.ok scene.frame, ⟨scene.frame, scene.change, channel⟩) := rfl
  exact .silent same

theorem built_modifyFrame (update : φ → φ) (scene : Scene φ σ) : Built means (modifyFrame update) scene := by
  have same (channel : Channel σ) :
      (modifyFrame update).runOver { scene with channel } = (.ok (), ⟨update scene.frame, scene.change, channel⟩) := rfl
  exact .silent same

theorem built_modifyChange (update : StackChange → StackChange) (scene : Scene φ σ) :
    Built means (modifyChange update) scene := by
  have same (channel : Channel σ) :
      (modifyChange update).runOver { scene with channel } = (.ok (), ⟨scene.frame, update scene.change, channel⟩) := rfl
  exact .silent same

omit [Interpreter σ] in
theorem talk_bind (conversation : Talk σ α) (next : α → Talk σ β) :
    (talk (conversation >>= next) : Act φ σ β) = talk conversation >>= fun value => talk (next value) := by
  funext scene
  change (talk (conversation >>= next) : Act φ σ β).runOver scene =
    (talk conversation >>= fun value => talk (next value)).runOver scene
  rw [runOver_bind_talk, runOver_talk, Talk.runOver_bind]
  rcases conversation.runOver scene.channel with ⟨_ | _, _⟩ <;> rfl

end Act

namespace Talk
variable [Interpreter σ] {means : Means}

/-- A conversation that is built the same way, whatever it is a part of. -/
def Built (means : Means) (conversation : Talk σ α) : Prop :=
  ∀ (φ : Type) (scene : Scene φ σ), Act.Built means (Act.talk conversation : Act φ σ α) scene

theorem Built.pure (value : α) : Built means (Pure.pure value : Talk σ α) := fun _ _ => .silent fun _ => rfl

theorem Built.throw (failure : Failure) : Built means (throw failure : Talk σ α) :=
  fun _ _ => .silent fun _ => rfl

theorem Built.bind {conversation : Talk σ α} {next : α → Talk σ β} (first : Built means conversation)
    (rest : ∀ value, Built means (next value)) : Built means (conversation >>= next) := by
  intro φ scene
  rw [Act.talk_bind]
  exact .bind (first _ scene) fun value later _ => rest value _ later

theorem Built.tryCatch {conversation : Talk σ α} {handle : Failure → Talk σ α} (may : means.catches = true)
    (fatal : ∀ failure, failure.isFatal = true → handle failure = MonadExcept.throw failure)
    (first : Built means conversation) (rest : ∀ failure, Built means (handle failure)) :
    Built means (MonadExcept.tryCatch conversation handle) :=
  fun _ scene => .catching may fatal (first _ scene) fun failure _ _ => rest failure _ _

theorem built_emit (prints : means.prints = true) (text : String) : Built means (emit text : Talk σ Unit) :=
  fun _ _ => .prints prints text

theorem built_execute (command : String) : Built means (execute command : Talk σ Response) :=
  fun _ _ => .asks command

theorem built_expecting (command : String) (expected : List Kind) :
    Built means (expecting command expected : Talk σ Response) := by
  apply Built.bind (built_execute command)
  intro response
  split
  · exact .pure response
  · exact .throw _

end Talk

section Hooks
variable [Interpreter σ] {means : Means}
open Talk

theorem Instrument.built_runAll (plan : List (String × Kind)) : Built means (runAll plan : Talk σ Unit) := by
  induction plan with
  | nil => exact .pure ()
  | cons entry rest ih => exact .bind (built_expecting _ _) fun _ => ih

theorem Instrument.built_loadFunctions : Built means (loadFunctions : Talk σ Unit) :=
  .bind (built_expecting _ _) fun _ => built_runAll _

theorem Entry.built_step {otherwise : Response → Talk σ Entry} (rest : ∀ response, Built means (otherwise response)) :
    Built means (step otherwise) := by
  apply Built.bind (built_execute stepCommand)
  intro response
  split
  · exact .pure _
  · exact rest response

theorem Entry.built_find : Built means (find : Talk σ Entry) := by
  have within (steps : Nat) : Built means (findWithin steps : Talk σ Entry) := by
    induction steps with
    | zero => exact built_step fun _ => .throw _
    | succ steps ih =>
      apply built_step
      intro response
      split
      · exact ih
      · exact .throw _
  exact within _

end Hooks

namespace Inspect
variable [Interpreter σ] {means : Means}
open Talk

theorem built_evaluate (expression : String) : Built means (evaluate expression : Talk σ String) :=
  .bind (built_expecting _ _) fun _ => .pure _

theorem built_conditionHolds (catches : means.catches = true) (condition : String) :
    Built means (conditionHolds condition : Talk σ Bool) := by
  apply Built.tryCatch catches
  · intro failure fatal
    rw [if_pos fatal]
  · exact .bind (built_evaluate _) fun _ => .pure _
  · intro failure
    split
    · exact .throw _
    · exact .pure _

theorem built_valueOf (catches : means.catches = true) (name : String) (isFunction : Bool) :
    Built means (valueOf name isFunction : Talk σ String) := by
  apply Built.tryCatch catches
  · intro failure fatal
    cases failure with
    | runtime => cases fatal
    | _ => rfl
  · exact .bind (built_expecting _ _) fun _ => .pure _
  · intro failure
    split
    · exact .pure _
    · exact .throw _

theorem built_visible (catches : means.catches = true) : Built means (visible : Talk σ (List Variable)) := by
  have listed (functions names : List String) : Built means (variablesOf functions names : Talk σ (List Variable)) := by
    induction names with
    | nil => exact .pure _
    | cons name rest ih => exact .bind (built_valueOf catches name _) fun _ => .bind ih fun _ => .pure _
  apply Built.bind (built_expecting _ _)
  intro names
  exact .bind (built_expecting _ _) fun functions => listed _ _

end Inspect

namespace CallFrame
variable [Interpreter σ] {means : Means} (prints : means.prints = true)
open Act

/-- Pausing is writing the output, moving to the announced line, and stepping on if that is a loop header. -/
theorem pauseAt_eq (response : Response) :
    (pauseAt response : Act CallFrame σ Unit) = (do
      Act.talk (Talk.emit response.output)
      Act.modifyFrame (·.atLine? ((announcedBy response).bind Position.lineNumber?))
      if (announcedBy response).any Position.isLoopHeader then
        let next ← Act.talk (Talk.expecting stepCommand [.paused])
        pauseAt next
      else pure ()) := by
  funext scene
  change pauseIn response scene = Act.runOver _ scene
  rw [pauseIn, runOver_bind_talk, Talk.runOver_emit]
  dsimp only
  rw [runOver_bind_modifyFrame]
  change _ = (if _ then _ else _ : Act CallFrame σ Unit).runOver (noted response scene)
  split
  · rw [runOver_bind_talk]
    rcases (Talk.expecting stepCommand [.paused]).runOver (noted response scene).channel with ⟨_ | _, _⟩ <;> rfl
  · rfl

include prints

theorem built_pauseAt (response : Response) (scene : Scene CallFrame σ) : Built means (pauseAt response) scene := by
  rw [pauseAt_eq]
  apply Built.bind (Talk.built_emit prints _ _ scene)
  intro _ emitted ran
  apply Built.bind (built_modifyFrame _ _)
  intro _ here moved
  split
  · apply Built.bind (Talk.built_expecting _ _ _ here)
    intro next stepped asked
    have fewer : stepped.channel.patience < scene.channel.patience := by
      obtain ⟨channel, answered, rfl⟩ := talk_run asked
      have spent := Talk.patience_expecting_lt answered
      cases ran
      cases moved
      simpa using spent
    exact built_pauseAt next stepped
  · exact built_pure _ _
termination_by scene.channel.patience

theorem built_enter (scene : Scene CallFrame σ) : Built means enter scene := by
  apply Built.bind (built_frame scene)
  intro frame later _
  have listing (scene : Scene CallFrame σ) : Built means (talk Instrument.loadFunctions) scene :=
    Instrument.built_loadFunctions _ scene
  cases frame.shape with
  | block =>
    apply Built.bind (Talk.built_expecting _ _ _ _)
    intro response _ _
    exact .bind (built_pauseAt prints response _) fun _ _ _ => listing _
  | expression => exact .bind (built_modifyFrame _ _) fun _ _ _ => listing _

theorem built_start (entry : Entry) : (start entry : Talk σ CallFrame).Built means := by
  intro φ scene
  refine .around (fun outcome callee _ => (outcome.map fun _ => callee, scene.frame, scene.change)) (fun _ _ _ => rfl)
    (built_enter prints ⟨⟨entry.shape, entry.name, .paused 1⟩, .none, scene.channel⟩) fun channel => ?_
  rfl

theorem built_ofCall : (ofCall : Talk σ CallFrame).Built means :=
  .bind Entry.built_find fun entry => built_start prints entry

theorem built_reenter (response : Response) (scene : Scene CallFrame σ) : Built means (reenter response) scene := by
  apply Built.bind (Talk.built_emit prints _ _ _)
  intro _ _ _
  apply Built.bind (Entry.built_find _ _)
  intro entry _ _
  apply Built.bind (built_frame _)
  intro frame _ _
  have renamed (scene : Scene CallFrame σ) : Built means (do
      Act.modifyFrame fun frame => { frame with name := entry.name }
      enter) scene := .bind (built_modifyFrame _ _) fun _ _ _ => built_enter prints _
  split
  · exact .bind (built_throw _ _) fun _ _ _ => renamed _
  · exact renamed _

theorem built_returnLine (response : Response) : (returnLine response : Talk σ (Option Int)).Built means := by
  unfold returnLine
  dsimp only
  split
  · apply Talk.Built.bind (Talk.built_expecting _ _)
    intro next
    exact .bind (Talk.built_emit prints _) fun _ => .pure _
  · exact .pure _

theorem built_leave (response : Response) (many : Bool) (scene : Scene CallFrame σ) :
    Built means (leave response many) scene := by
  have resumed (scene : Scene CallFrame σ) : Built means (do
      let line ← Act.talk (returnLine response)
      if line.isSome then
        Act.modifyChange fun change => { change with returnLine := line }
      Act.modifyFrame (·.returning response.output)) scene := by
    apply Built.bind (built_returnLine prints response _ _)
    intro line _ _
    dsimp only
    split
    · exact .bind (built_modifyChange _ _) fun _ _ _ => built_modifyFrame _ _
    · exact built_modifyFrame _ _
  apply Built.bind (Talk.built_emit prints _ _ _)
  intro _ _ _
  cases many with
  | false => exact resumed _
  | true => exact .bind (built_modifyChange _ _) fun _ _ _ => resumed _

theorem built_follow (response : Response) (scene : Scene CallFrame σ) : Built means (follow response) scene := by
  apply Built.bind (built_frame _)
  intro frame _ _
  cases response.kind with
  | paused => exact .bind (built_pauseAt prints response _) fun _ _ _ => Instrument.built_loadFunctions _ _
  | entering => exact .bind (built_ofCall prints _ _) fun _ _ _ => built_modifyChange _ _
  | reentered => exact built_reenter prints response _
  | returned | returnedMany => exact built_leave prints response _ _
  | quiet =>
    cases frame.shape with
    | block => exact built_pure _ _
    | expression => exact built_modifyFrame _ _
  | continuation | tracedBlock | tracedExpression | printed => exact built_throw _ _

theorem built_advance (scene : Scene CallFrame σ) : Built means advance scene := by
  apply Built.bind (built_frame _)
  intro frame _ _
  split
  · exact .bind (Talk.built_execute _ _ _) fun response _ _ => built_follow prints response _
  · exact built_pure _ _

end CallFrame

namespace ScriptFrame
variable [Interpreter σ] {means : Means} (prints : means.prints = true)
open Act
include prints

theorem built_descend (scene : Scene ScriptFrame σ) : Built means descend scene :=
  .bind (CallFrame.built_ofCall prints _ _) fun _ _ _ => built_modifyChange _ _

theorem built_finishStatement (response : Response) (scene : Scene ScriptFrame σ) :
    Built means (finishStatement response) scene :=
  .bind (Talk.built_emit prints _ _ _) fun _ _ _ => Instrument.built_loadFunctions _ _

theorem built_runStatement (command : String) (ahead : List String) (scene : Scene ScriptFrame σ) :
    Built means (runStatement command ahead) scene :=
  runStatement_closed (fun act => ∀ scene, Built means act scene) (fun first rest _ => .bind (first _) fun _ _ _ => rest _ _)
    (fun _ (_ : True) _ => Talk.built_expecting _ _ _ _) (built_modifyFrame _) built_throw (built_descend prints)
    (built_finishStatement prints) built_pure trivial (fun _ _ => trivial) scene

/-- How the end of a statement leaves the script. -/
private def settle : Except Failure Bool → ScriptFrame → StackChange → Except Failure Unit × ScriptFrame × StackChange
  | .ok true, frame, change => (.ok (), frame, change)
  | .ok false, frame, change => (.ok (), frame.settled, change)
  | .error failure, frame, change => (.error failure, frame.settled, change)

theorem built_advance (scene : Scene ScriptFrame σ) : Built means advance scene := by
  apply Built.bind (built_frame _)
  intro frame _ _
  dsimp only
  cases frame.script.skipIgnorable.ahead with
  | nil =>
    unfold runFront
    exact built_modifyFrame _ _
  | cons line rest =>
    unfold runFront
    apply Built.bind (built_modifyFrame _ _)
    intro _ reading _
    refine .around settle (fun _ _ _ => rfl) (built_runStatement prints line rest reading) fun channel => ?_
    unfold settling
    rw [runOver_of]
    rcases (runStatement line rest).runOver { reading with channel } with ⟨_ | _ | _, _⟩ <;> rfl

end ScriptFrame

def failure? : Except Failure α → Option Failure
  | .ok _ => none
  | .error failure => some failure

theorem eq_ok_of_toOption {outcome : Except Failure α × β} {value : α} (answered : outcome.1.toOption = some value) :
    outcome = (.ok value, outcome.2) := by
  obtain ⟨_ | _, later⟩ := outcome <;> cases answered
  rfl

theorem eq_error_of_failure? {outcome : Except Failure α × β} {failure : Failure}
    (failed : failure? outcome.1 = some failure) :
    outcome = (.error failure, outcome.2) := by
  obtain ⟨_ | _, later⟩ := outcome <;> cases failed
  rfl

/-- What can be said of the channel before and behind an act, and of the failure that the act ended with, if
it is true of the parts and carries over to acts put together. -/
structure Judgement [Interpreter σ] (means : Means) (judges : Channel σ → Option Failure → Channel σ → Prop) :
    Prop where
  rests : ∀ channel failure?, judges channel failure? channel
  prints : means.prints = true → ∀ text channel, judges channel none (channel.write ⟨text, false⟩)
  asks : ∀ command channel, let ran := (Talk.execute command).runOver channel
    judges channel (failure? ran.1) ran.2
  goesOn : ∀ {first middle last failure?}, judges first none middle → judges middle failure? last →
    judges first failure? last
  catching : means.catches = true → ∀ {first middle last failure failure?}, failure.isFatal = false →
    judges first (some failure) middle → judges middle failure? last → judges first failure? last

section Judged
variable [Interpreter σ] {means : Means} {judges : Channel σ → Option Failure → Channel σ → Prop}

theorem Act.Built.judged {act : Act φ σ α} {scene : Scene φ σ} (judgement : Judgement means judges)
    (built : Built means act scene) :
    judges scene.channel (failure? (act.runOver scene).1) (act.runOver scene).2.channel := by
  induction built with
  | @silent _ _ _ scene _ _ _ same =>
    rw [show _ = _ from same scene.channel]
    exact judgement.rests _ _
  | prints may text => exact judgement.prints may text _
  | asks command => exact judgement.asks command _
  | @bind _ _ _ act next scene _ _ begun ended =>
    rw [runOver_bind]
    rcases ran : act.runOver scene with ⟨failure | value, later⟩ <;> rw [ran] at begun
    · exact begun
    · exact judgement.goesOn begun (ended value later ran)
  | @catching _ _ conversation handle scene may fatal _ _ begun ended =>
    rw [runOver_talk] at begun ⊢
    rw [Talk.runOver_tryCatch]
    rcases ran : conversation.runOver scene.channel with ⟨failure | value, channel⟩ <;> rw [ran] at begun
    · cases kind : failure.isFatal with
      | true =>
        dsimp only
        rw [fatal failure kind]
        exact begun
      | false => exact judgement.catching may kind begun (ended failure channel ran)
    · exact begun
  | @around _ _ _ _ inner _ scene frame change finish fails _ same ended =>
    rw [show _ = _ from same scene.channel]
    rcases ran : inner.runOver ⟨frame, change, scene.channel⟩ with ⟨failure | value, later⟩ <;> rw [ran] at ended
    · change judges _ (failure? (finish (.error failure) later.frame later.change).1) later.channel
      rw [fails]
      exact ended
    · exact judgement.goesOn ended (judgement.rests _ _)

namespace Debuggee

theorem during_judged (judgement : Judgement means judges) {talk : Talk σ α} (built : talk.Built means)
    (debuggee : Debuggee σ) :
    judges debuggee.channel (failure? (debuggee.during talk).1) (debuggee.during talk).2.channel :=
  (built Unit ⟨(), .none, debuggee.channel⟩).judged judgement

theorem stepScript_judged (judgement : Judgement means judges) (prints : means.prints = true) (debuggee : Debuggee σ) :
    judges debuggee.channel (failure? debuggee.stepScript.1) debuggee.stepScript.2.channel := by
  have judged := (ScriptFrame.built_advance prints ⟨debuggee.stack.script, .none, debuggee.channel⟩).judged judgement
  unfold stepScript
  rcases ran : ScriptFrame.advance.runOver ⟨debuggee.stack.script, .none, debuggee.channel⟩
    with ⟨_ | _, _⟩ <;> rw [ran] at judged <;> exact judged

theorem stepCall_judged (judgement : Judgement means judges) (prints : means.prints = true) (debuggee : Debuggee σ)
    (top : CallFrame) (below : List CallFrame) :
    judges debuggee.channel (failure? (debuggee.stepCall top below).1) (debuggee.stepCall top below).2.channel := by
  have judged := (CallFrame.built_advance prints ⟨top, .none, debuggee.channel⟩).judged judgement
  unfold stepCall
  rcases ran : CallFrame.advance.runOver ⟨top, .none, debuggee.channel⟩
    with ⟨_ | _, _⟩ <;> rw [ran] at judged <;> exact judged

theorem advance_judged (judgement : Judgement means judges) (prints : means.prints = true) (debuggee : Debuggee σ) :
    judges debuggee.channel (failure? debuggee.advance.1) debuggee.advance.2.channel := by
  rcases advanced : debuggee.advance with ⟨outcome, later⟩
  cases advance_cases advanced with
  | rests _ same => exact same ▸ judgement.rests _ _
  | script _ _ stepped | scriptFails _ _ stepped =>
    have judged := debuggee.stepScript_judged judgement prints
    rwa [stepped] at judged
  | @call top below _ _ stepped | @callFails top below _ _ _ stepped =>
    have judged := debuggee.stepCall_judged judgement prints top below
    rwa [stepped] at judged

end Debuggee

namespace Worker

omit [Interpreter σ] in
theorem answer_debuggee (stopping : Bool) (report : Except String α → Event) (outcome : Except Failure α × Debuggee σ) :
    (answer stopping report outcome).2.debuggee = outcome.2 := by
  have answers := answer_answers stopping report outcome
  generalize answer stopping report outcome = answered at answers ⊢
  cases answers <;> rfl

theorem stopsHere_judged (judgement : Judgement means judges) (catches : means.catches = true) (hit : Option Hit)
    (debuggee : Debuggee σ) :
    judges debuggee.channel (failure? (stopsHere hit debuggee).1) (stopsHere hit debuggee).2.channel := by
  unfold stopsHere
  split
  · exact judgement.rests _ _
  · exact judgement.rests _ _
  · exact debuggee.during_judged judgement (Inspect.built_conditionHolds catches _)

theorem leg_judged (judgement : Judgement means judges) (prints : means.prints = true) (catches : means.catches = true)
    (run : Run) (breakpoints : Breakpoints) (debuggee : Debuggee σ) :
    let ended := leg run breakpoints debuggee
    judges debuggee.channel (failure? ended.1) ended.2.2.channel := by
  have advanced := debuggee.advance_judged judgement prints
  have same (depth : Nat) (stops : Except Failure Bool) : failure? (arrive run depth stops) = failure? stops := by
    rcases stops with _ | _ | _ <;> rfl
  rw [leg_eq]
  rcases ran : debuggee.advance with ⟨failure | moves, moved⟩ <;> rw [ran] at advanced
  · exact advanced
  · dsimp only
    split
    · rw [same]
      exact judgement.goesOn advanced (stopsHere_judged judgement catches _ moved)
    · exact advanced

theorem step_debuggee (stopping : Bool) (run : Run) (breakpoints : Breakpoints) (debuggee : Debuggee σ) :
    (step stopping run breakpoints debuggee).worker.debuggee = (leg run breakpoints debuggee).2.2 := by
  have turns := step_turns stopping run breakpoints debuggee
  generalize leg run breakpoints debuggee = ended at turns ⊢
  generalize step stopping run breakpoints debuggee = turn at turns ⊢
  cases turns <;> rfl

end Worker

/-- Everything that an act may do. -/
def Means.all : Means := ⟨true, true⟩

/-- What holds between the channels before and behind all parts holds between those before and behind all
that is done to a debuggee or to a worker. -/
structure Carries (allowed : Channel σ → Channel σ → Prop) : Prop where
  refl : ∀ channel, allowed channel channel
  trans : ∀ {first middle last}, allowed first middle → allowed middle last → allowed first last
  prints : ∀ text channel, allowed channel (channel.write ⟨text, false⟩)
  asks : ∀ command channel, allowed channel ((Talk.execute command).runOver channel).2

variable {allowed : Channel σ → Channel σ → Prop}

theorem Carries.judgement (carries : Carries allowed) : Judgement means fun before _ after => allowed before after where
  rests channel _ := carries.refl channel
  prints _ := carries.prints
  asks := carries.asks
  goesOn := carries.trans
  catching _ _ _ _ _ _ _ := carries.trans

theorem carries_sendings : Carries fun before after : Channel σ => before.Grows (fun _ => True) after where
  refl := .refl
  trans := .trans
  prints _ channel := .of_eq (channel.sendings_write _)
  asks command channel := ⟨_, Talk.sendings_execute command channel, fun _ _ => trivial⟩

theorem Carries.operate (carries : Carries allowed) (debuggee : Debuggee σ) (operation : Operation) :
    allowed debuggee.channel (debuggee.operate operation).channel := by
  have judgement : Judgement Means.all fun before _ after => allowed before after := carries.judgement
  cases operation with
  | advance => exact debuggee.advance_judged judgement rfl
  | evaluate expression => exact debuggee.during_judged judgement (Inspect.built_evaluate expression)
  | condition expression => exact debuggee.during_judged judgement (Inspect.built_conditionHolds rfl expression)
  | inspection => exact debuggee.during_judged judgement (Inspect.built_visible rfl)

theorem Carries.stopsHere (carries : Carries allowed) (hit : Option Hit) (debuggee : Debuggee σ) :
    allowed debuggee.channel (Worker.stopsHere hit debuggee).2.channel := by
  have judgement : Judgement Means.all fun before _ after => allowed before after := carries.judgement
  exact Worker.stopsHere_judged judgement rfl hit debuggee

theorem Carries.leg (carries : Carries allowed) (run : Run) (breakpoints : Breakpoints) (debuggee : Debuggee σ) :
    allowed debuggee.channel (Worker.leg run breakpoints debuggee).2.2.channel := by
  have judgement : Judgement Means.all fun before _ after => allowed before after := carries.judgement
  exact Worker.leg_judged judgement rfl rfl run breakpoints debuggee

theorem Carries.take (carries : Carries allowed) (stopping : Bool) (breakpoints : Breakpoints) (request : Request)
    (debuggee : Debuggee σ) :
    allowed debuggee.channel (Worker.take stopping breakpoints request debuggee).worker.debuggee.channel := by
  rcases request with _ | _ | ⟨id, expression⟩ | id | _
  · exact carries.refl _
  · exact carries.refl _
  · have asked := carries.operate debuggee (.evaluate expression)
    rwa [Debuggee.operate, ← Worker.answer_debuggee stopping (.evaluated id)] at asked
  · have asked := carries.operate debuggee .inspection
    rwa [Debuggee.operate, ← Worker.answer_debuggee stopping (.variables id)] at asked
  · exact carries.refl _

theorem Carries.move (carries : Carries allowed) (chronicle : Chronicle σ) (move : Move) :
    allowed chronicle.worker.debuggee.channel (chronicle.move move).worker.debuggee.channel := by
  cases move with
  | request request =>
    cases activity : chronicle.worker.activity with
    | running | stalled | ended => simpa [Chronicle.move, activity] using carries.refl _
    | idle =>
      rw [Chronicle.move_request activity]
      exact carries.take _ _ request _
  | leg =>
    cases activity : chronicle.worker.activity with
    | idle | stalled | ended => simpa [Chronicle.move, activity] using carries.refl _
    | running run =>
      have stepped := carries.leg run chronicle.breakpoints chronicle.worker.debuggee
      rw [Chronicle.move_leg activity]
      rwa [← Worker.step_debuggee chronicle.isStopping] at stepped
  | alter | shutdown => exact carries.refl _
  | release =>
    unfold Chronicle.move
    dsimp only
    split
    · cases activity : chronicle.worker.activity <;>
        simpa [Worker.release, Chronicle.behind, activity] using carries.refl _
    · exact carries.refl _

end Judged
end RStepper
