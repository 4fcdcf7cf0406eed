import RStepper.Interpreter.Scripted
import RStepper.Proofs.Exchanges

/-! The same thing done twice, with interpreters that answer alike. Whatever the debugger does, it goes the
same way then: the outcome, the frames, and what is sent and written down. The interpreters may differ in the
steps that their rules have left, as long as no rule is used up. -/

namespace RStepper
variable {φ σ α β : Type} {rules : List Rule}

/-- The rule for a command, which is the first one that applies. -/
def Rule.first? (rules : List Rule) (command : String) : Option Rule :=
  rules.find? (·.applies command)

/-- The replies of a list are used up alike. A rule that answers in a run that has fewer steps left answers in
the other one too. -/
theorem Scripted.answer_alike {plain other : Scripted} (plainRules : plain.rules = rules)
    (otherRules : other.rules = rules)
    (replies : plain.replies = other.replies) (steps : other.ruledSteps ≤ plain.ruledSteps) (command : String)
    (lasting : ∀ rule, Rule.first? rules command = some rule → (other.answer command).1 = rule.reply) :
    let (plainReply, laterPlain) := plain.answer command
    let (otherReply, laterOther) := other.answer command
    plainReply = otherReply ∧ laterPlain.rules = rules ∧ laterOther.rules = rules ∧
      laterPlain.replies = laterOther.replies ∧ laterOther.ruledSteps ≤ laterPlain.ruledSteps := by
  have plainRule : plain.rule? command = Rule.first? rules command := by rw [Scripted.rule?, plainRules]; rfl
  have otherRule : other.rule? command = Rule.first? rules command := by rw [Scripted.rule?, otherRules]; rfl
  unfold Scripted.answer at lasting ⊢
  rw [otherRule] at lasting ⊢
  rw [plainRule]
  cases applies : Rule.first? rules command with
  | none =>
    cases left : other.replies <;> simp [replies, left, plainRules, otherRules, steps]
  | some rule =>
    have ruled := lasting rule applies
    rw [applies] at ruled
    by_cases step : command = stepCommand
    · -- Where the other run has no step left, the rule itself says what a closed channel says.
      cases otherSteps : other.ruledSteps <;> cases plainSteps : plain.ruledSteps <;> simp_all
    · simp [step, replies, plainRules, otherRules, steps]

/-- The reply is the one that the rules have for the command. -/
def Sending.IsRuled (rules : List Rule) (sending : Sending) : Prop :=
  (Rule.first? rules sending.command).map Rule.reply = some sending.reply

namespace Channel

/-- No rule was used up: a command that the rules have a reply for got that reply. -/
def Lasting (rules : List Rule) (channel : Channel Scripted) : Prop :=
  ∀ sending ∈ channel.sendings, (Rule.first? rules sending.command).isSome → sending.IsRuled rules

/-- What the rules say and what replies are left is the same on both channels. -/
structure Alike (rules : List Rule) (plain other : Channel Scripted) : Prop where
  plainRules : plain.interpreter.rules = rules
  otherRules : other.interpreter.rules = rules
  replies : plain.interpreter.replies = other.interpreter.replies
  steps : other.interpreter.ruledSteps ≤ plain.interpreter.ruledSteps
  isStalled : plain.isStalled = other.isStalled

/-- From alike channels to alike channels with the same happenings. -/
structure Abreast (rules : List Rule) (plain other laterPlain laterOther : Channel Scripted) : Prop where
  alike : Alike rules laterPlain laterOther
  happened : ∃ more, laterPlain.log = plain.log ++ more ∧ laterOther.log = other.log ++ more

theorem Abreast.rest {plain other : Channel Scripted} (alike : Alike rules plain other) :
    Abreast rules plain other plain other :=
  ⟨alike, [], by simp, by simp⟩

theorem Abreast.trans {plain other middlePlain middleOther laterPlain laterOther : Channel Scripted}
    (begun : Abreast rules plain other middlePlain middleOther)
    (ended : Abreast rules middlePlain middleOther laterPlain laterOther) :
    Abreast rules plain other laterPlain laterOther := by
  obtain ⟨some, plainBegun, otherBegun⟩ := begun.happened
  obtain ⟨more, plainEnded, otherEnded⟩ := ended.happened
  exact ⟨ended.alike, some ++ more, by rw [plainEnded, plainBegun, List.append_assoc],
    by rw [otherEnded, otherBegun, List.append_assoc]⟩

theorem Abreast.write {plain other : Channel Scripted} (alike : Alike rules plain other) (record : Record) :
    Abreast rules plain other (plain.write record) (other.write record) := by
  unfold Channel.write
  split
  · exact .rest alike
  · exact ⟨⟨alike.plainRules, alike.otherRules, alike.replies, alike.steps, alike.isStalled⟩, _, rfl, rfl⟩

/-- A rule that still answers in one run has not been used up in the other, where it answered less. -/
theorem Abreast.ask {plain other : Channel Scripted} (alike : Alike rules plain other) (command : String)
    (lasting : (Rule.first? rules command).isSome → (other.sending command).IsRuled rules) :
    (plain.ask command).1 = (other.ask command).1 ∧
      Abreast rules plain other (plain.ask command).2 (other.ask command).2 := by
  have answered := Scripted.answer_alike alike.plainRules alike.otherRules alike.replies alike.steps command (by
    intro rule applies
    have ruled : (Rule.first? rules command).map Rule.reply = some (other.ask command).1 := lasting (by simp [applies])
    rw [applies] at ruled
    exact (Option.some.inj ruled).symm)
  obtain ⟨same, plainRules, otherRules, replies, steps⟩ := answered
  have reply : (plain.ask command).1 = (other.ask command).1 := same
  refine ⟨reply, ⟨plainRules, otherRules, replies, steps, ?_⟩, [.asked command (other.ask command).1], ?_, rfl⟩
  · change (plain.isStalled || (plain.ask command).1 == .pending) = (other.isStalled || (other.ask command).1 == .pending)
    rw [reply, alike.isStalled]
  · rw [← reply]
    rfl

end Channel

theorem Channel.Lasting.of_grows {allowed : String → Prop} {before after : Channel Scripted}
    (lasting : Lasting rules after) (grows : before.Grows allowed after) : Lasting rules before := by
  obtain ⟨more, sent, _⟩ := grows
  exact fun sending member => lasting sending (sent ▸ List.mem_append_left more member)

section Runs
open Channel

namespace Act

theorem Built.grows [Interpreter σ] {means : Means} {act : Act φ σ α} {scene : Scene φ σ}
    (built : Built means act scene) :
    scene.channel.Grows (fun _ => True) (act.runOver scene).2.channel :=
  built.judged carries_sendings.judgement

/-- What the act does here, it does on every channel that is alike, as long as no rule is used up. -/
def Mirrors (rules : List Rule) (act : Act φ Scripted α) (scene : Scene φ Scripted) : Prop :=
  ∀ ⦃outcome later⦄, act.runOver scene = (outcome, later) → Lasting rules later.channel →
    ∀ ⦃plain⦄, Alike rules plain scene.channel →
      ∃ channel, act.runOver { scene with channel := plain } = (outcome, { later with channel }) ∧
        Abreast rules plain scene.channel channel later.channel

theorem runOver_talk_of {conversation : Talk σ α} {scene : Scene φ σ} {outcome : Except Failure α} {later : Channel σ}
    (ran : conversation.runOver scene.channel = (outcome, later)) :
    (talk conversation : Act φ σ α).runOver scene = (outcome, { scene with channel := later }) := by
  rw [runOver_talk, ran]

theorem runOver_of_talk {conversation : Talk σ α} {scene later : Scene φ σ} {outcome : Except Failure α}
    (ran : (talk conversation : Act φ σ α).runOver scene = (outcome, later)) :
    conversation.runOver scene.channel = (outcome, later.channel) := by
  obtain ⟨channel, went, rfl⟩ := talk_run ran
  exact went

variable {scene : Scene φ Scripted}

theorem mirrors_silent {act : Act φ Scripted α} {outcome : Except Failure α} {frame : φ} {change : StackChange}
    (same : ∀ channel, act.runOver { scene with channel } = (outcome, ⟨frame, change, channel⟩)) :
    act.Mirrors rules scene := by
  intro result later ran lasting plain alike
  cases (same scene.channel).symm.trans ran
  exact ⟨plain, same plain, .rest alike⟩

theorem mirrors_emit (text : String) : (talk (Talk.emit text)).Mirrors rules scene := by
  intro result later ran lasting plain alike
  cases ran
  exact ⟨_, rfl, .write alike _⟩

theorem mirrors_execute (command : String) : (talk (Talk.execute command)).Mirrors rules scene := by
  intro result later ran lasting plain alike
  obtain ⟨behind, asked, rfl⟩ := talk_run ran
  have sent := Talk.sendings_execute command scene.channel
  rw [asked] at sent
  obtain ⟨reply, abreast⟩ := Abreast.ask alike command fun applies =>
    lasting (scene.channel.sending command) (by simp [sent]) applies
  have mirrored : ∃ channel, (Talk.execute command).runOver plain = (result, channel) ∧
      Abreast rules plain scene.channel channel behind := by
    rw [Talk.runOver_execute] at asked ⊢
    rw [reply]
    cases answer : (scene.channel.ask command).1 with
    | closed | pending =>
      rw [answer] at asked
      cases asked
      exact ⟨_, rfl, abreast⟩
    | said body diagnostics =>
      rw [answer] at asked
      dsimp only at asked ⊢
      rw [Talk.runOver_receive] at asked ⊢
      cases classified : Response.classify (command ++ "\n" ++ body) with
      | none =>
        rw [classified] at asked
        cases asked
        exact ⟨_, rfl, abreast⟩
      | some response =>
        rw [classified] at asked
        cases asked
        exact ⟨_, rfl, abreast.trans (.write abreast.alike _)⟩
  obtain ⟨channel, went, abreast⟩ := mirrored
  exact ⟨channel, runOver_talk_of went, abreast⟩

theorem Mirrors.bind {act : Act φ Scripted α} {next : α → Act φ Scripted β} (first : act.Mirrors rules scene)
    (rest : ∀ value later, act.runOver scene = (.ok value, later) → (next value).Mirrors rules later)
    (grows : ∀ value later, act.runOver scene = (.ok value, later) →
      later.channel.Grows (fun _ => True) ((next value).runOver later).2.channel) :
    (act >>= next).Mirrors rules scene := by
  intro outcome last ran lasting plain alike
  rw [runOver_bind] at ran ⊢
  rcases went : act.runOver scene with ⟨failure | value, middle⟩ <;> rw [went] at ran
  · cases ran
    obtain ⟨channel, same, abreast⟩ := first went lasting alike
    rw [same]
    exact ⟨channel, rfl, abreast⟩
  · have further := grows value middle went
    rw [show (next value).runOver middle = _ from ran] at further
    obtain ⟨channel, same, begun⟩ := first went (lasting.of_grows further) alike
    obtain ⟨channel, sameLast, ended⟩ := rest value middle went ran lasting begun.alike
    rw [same]
    exact ⟨channel, sameLast, begun.trans ended⟩

theorem Mirrors.catching {conversation : Talk Scripted α} {handle : Failure → Talk Scripted α}
    (first : (talk conversation).Mirrors rules scene)
    (rest : ∀ failure channel, conversation.runOver scene.channel = (.error failure, channel) →
      (talk (handle failure)).Mirrors rules { scene with channel })
    (grows : ∀ failure channel, conversation.runOver scene.channel = (.error failure, channel) →
      channel.Grows (fun _ => True) ((handle failure).runOver channel).2) :
    (talk (tryCatch conversation handle)).Mirrors rules scene := by
  intro outcome last ran lasting plain alike
  obtain ⟨behind, tried, rfl⟩ := talk_run ran
  rw [Talk.runOver_tryCatch] at tried
  rw [runOver_talk, Talk.runOver_tryCatch]
  rcases went : conversation.runOver scene.channel with ⟨failure | value, middle⟩ <;> rw [went] at tried
  · have further := grows failure middle went
    rw [show (handle failure).runOver middle = _ from tried] at further
    obtain ⟨channel, same, begun⟩ := first (runOver_talk_of went) (lasting.of_grows further) alike
    obtain ⟨channel, sameLast, ended⟩ := rest failure middle went (runOver_talk_of tried) lasting begun.alike
    rw [runOver_of_talk same]
    dsimp only
    rw [show (handle failure).runOver _ = _ from runOver_of_talk sameLast]
    exact ⟨channel, rfl, begun.trans ended⟩
  · cases tried
    obtain ⟨channel, same, abreast⟩ := first (runOver_talk_of went) lasting alike
    rw [runOver_of_talk same]
    exact ⟨channel, rfl, abreast⟩

theorem Mirrors.around {ψ : Type} {inner : Act ψ Scripted β} {outer : Act φ Scripted α} {frame : ψ} {change : StackChange}
    {finish : Except Failure β → ψ → StackChange → Except Failure α × φ × StackChange}
    (same : ∀ channel, outer.runOver { scene with channel } =
      let (outcome, later) := inner.runOver ⟨frame, change, channel⟩
      let (ended, frame, change) := finish outcome later.frame later.change
      (ended, ⟨frame, change, later.channel⟩))
    (inside : inner.Mirrors rules ⟨frame, change, scene.channel⟩) : outer.Mirrors rules scene := by
  intro outcome last ran lasting plain alike
  have here := same scene.channel
  rw [show outer.runOver { scene with channel := scene.channel } = _ from ran] at here
  rw [same plain]
  rcases went : inner.runOver ⟨frame, change, scene.channel⟩ with ⟨result, middle⟩
  rw [went] at here
  cases here
  obtain ⟨channel, mirrored, abreast⟩ := inside went lasting alike
  rw [show inner.runOver ⟨frame, change, plain⟩ = _ from mirrored]
  exact ⟨channel, rfl, abreast⟩

theorem Built.mirrors {means : Means} {act : Act φ Scripted α} (built : Built means act scene) :
    act.Mirrors rules scene := by
  induction built with
  | silent same => exact mirrors_silent same
  | prints may text => exact mirrors_emit text
  | asks command => exact mirrors_execute command
  | bind first rest begun ended => exact Mirrors.bind begun ended fun value later ran => (rest value later ran).grows
  | catching may fatal first rest begun ended =>
    exact Mirrors.catching begun ended fun failure channel ran => (rest failure channel ran).grows
  | around finish fails inside same ended => exact Mirrors.around same ended

end Act

namespace Debuggee
variable {debuggee : Debuggee Scripted}

/-- What is done to this debuggee, is done to it on every channel that is alike. -/
def Mirrors (rules : List Rule) (act : Debuggee Scripted → Except Failure α × Debuggee Scripted)
    (debuggee : Debuggee Scripted) : Prop :=
  ∀ ⦃outcome later⦄, act debuggee = (outcome, later) → Lasting rules later.channel →
    ∀ ⦃plain⦄, Alike rules plain debuggee.channel →
      ∃ channel, act { debuggee with channel := plain } = (outcome, { later with channel }) ∧
        Abreast rules plain debuggee.channel channel later.channel

theorem mirrors_during {means : Means} {talk : Talk Scripted α} (built : talk.Built means) :
    debuggee.Mirrors rules (·.during talk) := by
  intro outcome later ran lasting plain alike
  dsimp only [during] at ran ⊢
  rcases went : talk.runOver debuggee.channel with ⟨result, behind⟩
  rw [went] at ran
  cases ran
  obtain ⟨channel, same, abreast⟩ :=
    (built Unit ⟨(), .none, debuggee.channel⟩).mirrors (Act.runOver_talk_of went) lasting alike
  refine ⟨channel, ?_, abreast⟩
  rw [show talk.runOver plain = _ from Act.runOver_of_talk same]

theorem mirrors_stepScript : debuggee.Mirrors rules stepScript := by
  intro outcome later ran lasting plain alike
  have built : Act.Built Means.all ScriptFrame.advance ⟨debuggee.stack.script, .none, debuggee.channel⟩ :=
    ScriptFrame.built_advance rfl _
  unfold stepScript at ran ⊢
  rcases went : ScriptFrame.advance.runOver ⟨debuggee.stack.script, .none, debuggee.channel⟩ with ⟨_ | _, scene⟩ <;>
    rw [went] at ran <;> cases ran
  all_goals
    obtain ⟨channel, same, abreast⟩ := built.mirrors went lasting alike
    refine ⟨channel, ?_, abreast⟩
    rw [show ScriptFrame.advance.runOver ⟨debuggee.stack.script, .none, plain⟩ = _ from same]

theorem mirrors_stepCall (top : CallFrame) (below : List CallFrame) :
    debuggee.Mirrors rules (·.stepCall top below) := by
  intro outcome later ran lasting plain alike
  have built : Act.Built Means.all CallFrame.advance ⟨top, .none, debuggee.channel⟩ := CallFrame.built_advance rfl _
  dsimp only [stepCall] at ran ⊢
  rcases went : CallFrame.advance.runOver ⟨top, .none, debuggee.channel⟩ with ⟨_ | _, scene⟩ <;>
    rw [went] at ran <;> cases ran
  all_goals
    obtain ⟨channel, same, abreast⟩ := built.mirrors went lasting alike
    refine ⟨channel, ?_, abreast⟩
    rw [show CallFrame.advance.runOver ⟨top, .none, plain⟩ = _ from same]

theorem mirrors_advance : debuggee.Mirrors rules advance := by
  intro outcome later ran lasting plain alike
  unfold advance at ran ⊢
  split at ran
  next next =>
    rw [if_pos next]
    dsimp only at ran ⊢
    cases calls : debuggee.stack.calls with
    | nil =>
      rw [calls] at ran
      dsimp only at ran ⊢
      rcases went : debuggee.stepScript with ⟨result, behind⟩
      rw [went] at ran
      cases ran
      obtain ⟨channel, same, abreast⟩ := mirrors_stepScript went lasting alike
      rw [same]
      exact ⟨channel, rfl, abreast⟩
    | cons top below =>
      rw [calls] at ran
      dsimp only at ran ⊢
      rcases went : debuggee.stepCall top below with ⟨result, behind⟩
      rw [went] at ran
      cases ran
      obtain ⟨channel, same, abreast⟩ := mirrors_stepCall top below went lasting alike
      rw [show Debuggee.stepCall _ top below = _ from same]
      exact ⟨channel, rfl, abreast⟩
  next ended =>
    rw [if_neg ended]
    cases ran
    exact ⟨plain, rfl, .rest alike⟩

end Debuggee
end Runs
end RStepper
