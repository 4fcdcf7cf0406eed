import RStepper.Inspect
import RStepper.Proofs.Conversation

/-! The commands that each part of the debugger can send. Whatever comes of a conversation, it only adds
to what was asked before, and the commands that are the debugger's own are few: the step, the listing of
functions, the four commands of a hook, and the questions of an inspection. -/

namespace RStepper
variable {φ σ α β : Type}

/-- A command, the reply to it, and the number of commands sent before it. -/
structure Sending where
  command : String
  reply : Reply
  position : Nat
  deriving DecidableEq, Repr

def Happening.exchange? : Happening → Option (String × Reply)
  | .asked command reply => some (command, reply)
  | .wrote _ => none

namespace Channel

def sendings (channel : Channel σ) : List Sending :=
  (channel.log.filterMap Happening.exchange?).mapIdx fun position exchange => ⟨exchange.1, exchange.2, position⟩

@[simp] theorem sendings_write (channel : Channel σ) (record : Record) :
    (channel.write record).sendings = channel.sendings := by
  unfold write
  split
  · rfl
  · simp [sendings, Happening.exchange?, List.filterMap_cons]

def sending [Interpreter σ] (channel : Channel σ) (command : String) : Sending :=
  ⟨command, (channel.ask command).1, channel.sendings.length⟩

theorem sendings_ask [Interpreter σ] (channel : Channel σ) (command : String) :
    (channel.ask command).2.sendings = channel.sendings ++ [channel.sending command] := by
  simp [ask, sending, sendings, Happening.exchange?]

/-- Nothing that was asked is lost, and all commands that were added are allowed. -/
def Grows (allowed : String → Prop) (before after : Channel σ) : Prop :=
  ∃ more, after.sendings = before.sendings ++ more ∧ ∀ sending ∈ more, allowed sending.command

variable {allowed : String → Prop}

theorem Grows.of_eq {before after : Channel σ} (same : after.sendings = before.sendings) :
    before.Grows allowed after :=
  ⟨[], by simp [same], by simp⟩

theorem Grows.refl (channel : Channel σ) : channel.Grows allowed channel := .of_eq rfl

theorem Grows.trans {first middle last : Channel σ} (begun : first.Grows allowed middle)
    (ended : middle.Grows allowed last) : first.Grows allowed last := by
  obtain ⟨some, begun, early⟩ := begun
  obtain ⟨more, ended, late⟩ := ended
  refine ⟨some ++ more, by rw [ended, begun, List.append_assoc], ?_⟩
  intro sending member
  rcases List.mem_append.mp member with member | member
  · exact early sending member
  · exact late sending member

end Channel

namespace Talk
variable {allowed : String → Prop}

/-- Whatever comes of the conversation, all commands that it sends are allowed. -/
def Sends (allowed : String → Prop) (talk : Talk σ α) : Prop :=
  ∀ channel : Channel σ, channel.Grows allowed (talk.runOver channel).2

theorem Sends.pure (value : α) : Sends allowed (Pure.pure value : Talk σ α) := Channel.Grows.refl

theorem Sends.throw (failure : Failure) : Sends allowed (throw failure : Talk σ α) := Channel.Grows.refl

theorem Sends.bind_ok {talk : Talk σ α} {next : α → Talk σ β} (first : Sends allowed talk)
    (rest : ∀ channel value later, talk.runOver channel = (.ok value, later) → Sends allowed (next value)) :
    Sends allowed (talk >>= next) := by
  intro channel
  have begun := first channel
  rw [runOver_bind]
  rcases seen : talk.runOver channel with ⟨_ | value, later⟩ <;> rw [seen] at begun
  · exact begun
  · exact begun.trans (rest channel value later seen later)

theorem Sends.bind {talk : Talk σ α} {next : α → Talk σ β} (first : Sends allowed talk)
    (rest : ∀ value, Sends allowed (next value)) : Sends allowed (talk >>= next) :=
  first.bind_ok fun _ value _ _ => rest value

theorem Sends.tryCatch {talk : Talk σ α} {handle : Failure → Talk σ α} (first : Sends allowed talk)
    (rest : ∀ failure, Sends allowed (handle failure)) : Sends allowed (tryCatch talk handle) := by
  intro channel
  have begun := first channel
  rw [runOver_tryCatch]
  rcases seen : talk.runOver channel with ⟨failure | _, later⟩ <;> rw [seen] at begun
  · exact begun.trans (rest failure later)
  · exact begun

theorem sends_emit (text : String) : Sends allowed (emit text : Talk σ Unit) :=
  fun channel => .of_eq (channel.sendings_write _)

theorem sendings_receive (command body diagnostics : String) (channel : Channel σ) :
    ((receive command body diagnostics).runOver channel).2.sendings = channel.sendings := by
  have reported : ((report diagnostics).runOver channel).2.sendings = channel.sendings :=
    channel.sendings_write _
  unfold receive
  dsimp only
  split
  · rfl
  · rw [runOver_bind]
    split
    next later ran =>
      rw [ran] at reported
      split <;> exact reported
    next later ran =>
      rw [ran] at reported
      exact reported

variable [Interpreter σ]

theorem sendings_execute (command : String) (channel : Channel σ) :
    ((execute command : Talk σ Response).runOver channel).2.sendings =
      channel.sendings ++ [channel.sending command] := by
  rw [runOver_execute, ← Channel.sendings_ask]
  split
  · exact sendings_receive ..
  · rfl
  · rfl

theorem sendings_expecting (command : String) (expected : List Kind) (channel : Channel σ) :
    ((expecting command expected : Talk σ Response).runOver channel).2.sendings =
      channel.sendings ++ [channel.sending command] := by
  rw [← sendings_execute, expecting, runOver_bind]
  rcases (execute command : Talk σ Response).runOver channel with ⟨_ | response, later⟩
  · rfl
  · dsimp only
    split <;> rfl

theorem sends_execute {command : String} (isAllowed : allowed command) :
    Sends allowed (execute command : Talk σ Response) :=
  fun channel => ⟨_, sendings_execute command channel, by simpa [Channel.sending] using isAllowed⟩

theorem sends_expecting {command : String} (expected : List Kind) (isAllowed : allowed command) :
    Sends allowed (expecting command expected : Talk σ Response) :=
  fun channel => ⟨_, sendings_expecting command expected channel, by simpa [Channel.sending] using isAllowed⟩

end Talk

/-- A command of the debugger's own, with which it steps and hooks up functions. -/
def IsService (command : String) : Prop :=
  command = stepCommand ∨ command = Instrument.listFunctions ∨
    ∃ name kind, (command, kind) ∈ Instrument.commands name

/-- A command that looks at the paused program. -/
def IsInspection (command : String) : Prop :=
  (∃ expression, command = Inspect.evaluationCommand expression) ∨ command = Inspect.listNames ∨
    command = Instrument.listFunctions ∨ ∃ name, command = Symbol.quoted name

theorem isService_stepCommand : IsService stepCommand := .inl rfl

theorem isService_listFunctions : IsService Instrument.listFunctions := .inr (.inl rfl)

section Hooks
variable [Interpreter σ]
open Talk

theorem Instrument.sends_runAll {allowed : String → Prop} {plan : List (String × Kind)}
    (planned : ∀ entry ∈ plan, allowed entry.1) : Sends allowed (runAll plan : Talk σ Unit) := by
  induction plan with
  | nil => exact .pure _
  | cons entry rest ih =>
    apply Sends.bind (sends_expecting _ (planned entry List.mem_cons_self))
    intro response
    exact ih fun other member => planned other (List.mem_cons_of_mem _ member)

theorem Instrument.sends_loadFunctions : Sends IsService (loadFunctions : Talk σ Unit) := by
  apply Sends.bind (sends_expecting _ isService_listFunctions)
  intro listing
  apply sends_runAll
  rintro ⟨command, kind⟩ member
  obtain ⟨name, _, inside⟩ := List.mem_flatMap.mp member
  exact .inr (.inr ⟨name, kind, inside⟩)

theorem Entry.sends_step {allowed : String → Prop} (steps : allowed stepCommand) {otherwise : Response → Talk σ Entry}
    (rest : ∀ response, Sends allowed (otherwise response)) : Sends allowed (step otherwise) := by
  apply Sends.bind (sends_execute steps)
  intro response
  split
  · exact .pure _
  · exact rest response

theorem Entry.sends_find {allowed : String → Prop} (steps : allowed stepCommand) :
    Sends allowed (find : Talk σ Entry) := by
  have within (count : Nat) : Sends allowed (findWithin count : Talk σ Entry) := by
    induction count with
    | zero => exact sends_step steps fun _ => .throw _
    | succ count ih =>
      apply sends_step steps
      intro response
      split
      · exact ih
      · exact .throw _
  exact within _

end Hooks

namespace Act
variable {allowed : String → Prop}

/-- Whatever comes of the act, all commands that it sends are allowed. -/
abbrev Sends (allowed : String → Prop) (act : Act φ σ α) : Prop :=
  Within (fun before after => before.channel.Grows allowed after.channel) act

theorem Sends.bind {act : Act φ σ α} {next : α → Act φ σ β} (first : Sends allowed act)
    (rest : ∀ value, Sends allowed (next value)) : Sends allowed (act >>= next) :=
  Within.bind .trans first rest

theorem sends_talk {conversation : Talk σ α} (sends : conversation.Sends allowed) :
    Sends allowed (talk conversation : Act φ σ α) :=
  fun scene => sends scene.channel

theorem sends_throw (failure : Failure) : Sends allowed (throw failure : Act φ σ α) := fun _ => .refl _

theorem sends_pure (value : α) : Sends allowed (pure value : Act φ σ α) := fun _ => .refl _

theorem sends_frame : Sends allowed (frame : Act φ σ φ) := fun _ => .refl _

theorem sends_modifyFrame (update : φ → φ) : Sends allowed (modifyFrame update : Act φ σ Unit) := fun _ => .refl _

theorem sends_modifyChange (update : StackChange → StackChange) :
    Sends allowed (modifyChange update : Act φ σ Unit) :=
  fun _ => .refl _

end Act

/-- What the step of a call sends is allowed: the step command, and what hooks up functions. -/
structure AllowsSteps (σ : Type) [Interpreter σ] (allowed : String → Prop) : Prop where
  steps : allowed stepCommand
  hooks : (Instrument.loadFunctions : Talk σ Unit).Sends allowed

theorem AllowsSteps.service [Interpreter σ] : AllowsSteps σ IsService :=
  ⟨isService_stepCommand, Instrument.sends_loadFunctions⟩

namespace CallFrame
variable [Interpreter σ] {allowed : String → Prop}
open Act

theorem sends_pauseAt (steps : allowed stepCommand) (response : Response) :
    Sends allowed (pauseAt response : Act CallFrame σ Unit) := by
  intro scene
  change scene.channel.Grows allowed (pauseIn response scene).2.channel
  have written (scene : Scene CallFrame σ) (response : Response) :
      scene.channel.Grows allowed (noted response scene).channel := .of_eq (Channel.sendings_write ..)
  fun_induction pauseIn response scene with
  | case1 response scene here loops next channel stepped ih =>
    have sent := Talk.sends_expecting [.paused] steps here.channel
    rw [stepped] at sent
    exact (written scene response).trans (sent.trans ih)
  | case2 response scene here loops failure channel stepped =>
    have sent := Talk.sends_expecting [.paused] steps here.channel
    rw [stepped] at sent
    exact (written scene response).trans sent
  | case3 response scene here => exact written scene response

theorem sends_returnLine (steps : allowed stepCommand) (response : Response) :
    (returnLine response : Talk σ (Option Int)).Sends allowed := by
  unfold returnLine
  dsimp only
  split
  · apply Talk.Sends.bind (Talk.sends_expecting _ steps)
    intro next
    exact .bind (Talk.sends_emit _) fun _ => .pure _
  · exact .pure _

theorem sends_leave (steps : allowed stepCommand) (response : Response) (many : Bool) :
    Sends allowed (leave response many : Act CallFrame σ Unit) := by
  have resumed : Sends allowed (do
      let line ← Act.talk (returnLine response)
      if line.isSome then
        Act.modifyChange fun change => { change with returnLine := line }
      Act.modifyFrame (·.returning response.output) : Act CallFrame σ Unit) := by
    apply Sends.bind (sends_talk (sends_returnLine steps response))
    intro line
    dsimp only
    split
    · exact .bind (sends_modifyChange _) fun _ => sends_modifyFrame _
    · exact sends_modifyFrame _
  apply Sends.bind (sends_talk (Talk.sends_emit _))
  intro _
  cases many with
  | false => exact resumed
  | true => exact .bind (sends_modifyChange _) fun _ => resumed

variable (allows : AllowsSteps σ allowed)
include allows

theorem sends_enter : Sends allowed (enter : Act CallFrame σ Unit) := by
  apply Sends.bind sends_frame
  intro frame
  have listing : Sends allowed (talk Instrument.loadFunctions : Act CallFrame σ Unit) := sends_talk allows.hooks
  cases frame.shape with
  | block =>
    apply Sends.bind (sends_talk (Talk.sends_expecting _ allows.steps))
    intro response
    exact .bind (sends_pauseAt allows.steps response) fun _ => listing
  | expression => exact .bind (sends_modifyFrame _) fun _ => listing

theorem sends_ofCall : (ofCall : Talk σ CallFrame).Sends allowed := by
  apply Talk.Sends.bind (Entry.sends_find allows.steps)
  intro entry channel
  exact sends_enter allows ⟨⟨entry.shape, entry.name, .paused 1⟩, .none, channel⟩

theorem sends_reenter (response : Response) : Sends allowed (reenter response : Act CallFrame σ Unit) := by
  apply Sends.bind (sends_talk (Talk.sends_emit _))
  intro _
  apply Sends.bind (sends_talk (Entry.sends_find allows.steps))
  intro entry
  apply Sends.bind sends_frame
  intro frame
  have renamed : Sends allowed (do
      Act.modifyFrame fun frame => { frame with name := entry.name }
      enter : Act CallFrame σ Unit) := .bind (sends_modifyFrame _) fun _ => sends_enter allows
  split
  · exact .bind (sends_throw _) fun _ => renamed
  · exact renamed

theorem sends_follow (response : Response) : Sends allowed (follow response : Act CallFrame σ Unit) := by
  apply Sends.bind sends_frame
  intro frame
  cases response.kind with
  | paused => exact .bind (sends_pauseAt allows.steps response) fun _ => sends_talk allows.hooks
  | entering => exact .bind (sends_talk (sends_ofCall allows)) fun _ => sends_modifyChange _
  | reentered => exact sends_reenter allows response
  | returned | returnedMany => exact sends_leave allows.steps response _
  | quiet =>
    cases frame.shape with
    | block => exact sends_pure ()
    | expression => exact sends_modifyFrame _
  | continuation | tracedBlock | tracedExpression | printed => exact sends_throw _

theorem sends_advance : Sends allowed (advance : Act CallFrame σ Unit) := by
  apply Sends.bind sends_frame
  intro frame
  split
  · exact .bind (sends_talk (Talk.sends_execute allows.steps)) fun response => sends_follow allows response
  · exact sends_pure ()

end CallFrame

namespace Inspect
variable [Interpreter σ] {allowed : String → Prop}
open Talk

theorem sends_evaluation {expression : String} (isAllowed : allowed (evaluationCommand expression)) :
    Sends allowed (evaluate expression : Talk σ String) :=
  .bind (sends_expecting _ isAllowed) fun _ => .pure _

theorem sends_evaluate (expression : String) : Sends IsInspection (evaluate expression : Talk σ String) :=
  sends_evaluation (.inl ⟨expression, rfl⟩)

theorem sends_condition {condition : String} (isAllowed : allowed (evaluationCommand (conditionExpression condition))) :
    Sends allowed (conditionHolds condition : Talk σ Bool) := by
  apply Sends.tryCatch (.bind (sends_evaluation isAllowed) fun _ => .pure _)
  intro failure
  split
  · exact .throw _
  · exact .pure _

theorem sends_conditionHolds (condition : String) : Sends IsInspection (conditionHolds condition : Talk σ Bool) :=
  sends_condition (.inl ⟨_, rfl⟩)

theorem sends_variablesOf {names : List String} (named : ∀ name ∈ names, allowed (Symbol.quoted name))
    (functions : List String) : Sends allowed (variablesOf functions names : Talk σ (List Variable)) := by
  have printed {name : String} (isAllowed : allowed (Symbol.quoted name)) (isFunction : Bool) :
      Sends allowed (valueOf name isFunction : Talk σ String) := by
    apply Sends.tryCatch (.bind (sends_expecting _ isAllowed) fun _ => .pure _)
    intro failure
    split
    · exact .pure _
    · exact .throw _
  induction names with
  | nil => exact .pure _
  | cons name rest ih =>
    apply Sends.bind (printed (named name List.mem_cons_self) _)
    intro value
    exact .bind (ih fun other member => named other (List.mem_cons_of_mem _ member)) fun _ => .pure _

theorem sends_visible : Sends IsInspection (visible : Talk σ (List Variable)) := by
  apply Sends.bind (sends_expecting _ (.inr (.inl rfl)))
  intro names
  apply Sends.bind (sends_expecting _ (.inr (.inr (.inl rfl))))
  intro functions
  exact sends_variablesOf (fun name _ => .inr (.inr (.inr ⟨name, rfl⟩))) _

end Inspect
end RStepper
