import RStepper.Proofs.MirroredRuns

/-! What a look at the paused program leaves behind on the channel: its own commands, and what came on the
diagnostic stream. If rules answered all of them, the replies of the interpreter's list are still there, and a
run that goes on shadows the run that did not look. -/

namespace RStepper
variable {σ α : Type} {rules : List Rule}

def Channel.output (channel : Channel σ) : List Record :=
  channel.records.filter (!·.isDiagnostic)

def Sending.exchange (sending : Sending) : String × Reply :=
  (sending.command, sending.reply)

namespace Channel

theorem map_exchange_sendings (channel : Channel σ) :
    channel.sendings.map Sending.exchange = channel.log.filterMap Happening.exchange? := by
  apply List.ext_getElem <;> simp [sendings, Sending.exchange]

/-- Each command is sent once: the positions tell the sendings apart. -/
theorem nodup_sendings (channel : Channel σ) : channel.sendings.Nodup := by
  have positions : channel.sendings.map Sending.position = List.range channel.sendings.length := by
    apply List.ext_getElem
    · simp
    · simp [sendings]
  have distinct : (channel.sendings.map Sending.position).Nodup := positions ▸ List.nodup_range
  exact List.Pairwise.of_map Sending.position (fun _ _ apart same => apart (congrArg Sending.position same)) distinct

theorem new_sendings {before after : Channel σ} {more : List Sending} (sent : after.sendings = before.sendings ++ more)
    {sending : Sending} (added : sending ∈ more) : sending ∉ before.sendings := by
  have distinct := sent ▸ after.nodup_sendings
  exact fun old => (List.nodup_append.mp distinct).2.2 sending old sending added rfl

theorem output_write_diagnostics (channel : Channel σ) (diagnostics : String) :
    (channel.write ⟨diagnostics, true⟩).output = channel.output := by
  rw [output, records_write]
  split <;> simp [output]

end Channel

namespace Scripted

theorem rules_answer (script : Scripted) (command : String) : (script.answer command).2.rules = script.rules := by
  unfold answer
  split
  · split
    · split <;> rfl
    · rfl
  · split <;> rfl

/-- Only the step can use up a rule. -/
theorem answer_of_rule {script : Scripted} {command : String} {rule : Rule} (ruled : script.rule? command = some rule)
    (other : command ≠ stepCommand) : script.answer command = (rule.reply, script) := by
  rw [answer, ruled]
  exact if_neg other

theorem answer_ruled {script : Scripted} {command : String} (ruled : (Rule.first? script.rules command).isSome) :
    let later := (script.answer command).2
    later.rules = script.rules ∧ later.replies = script.replies ∧ later.ruledSteps ≤ script.ruledSteps := by
  refine ⟨script.rules_answer command, ?_⟩
  obtain ⟨rule, applies⟩ := Option.isSome_iff_exists.mp ruled
  have found : script.rule? command = some rule := applies
  by_cases step : command = stepCommand
  · rw [answer, found]
    dsimp only
    rw [if_pos step]
    cases left : script.ruledSteps with
    | zero => exact ⟨rfl, Nat.le_of_eq left⟩
    | succ steps => exact ⟨rfl, Nat.le_succ steps⟩
  · rw [answer_of_rule found step]
    exact ⟨rfl, Nat.le_refl _⟩

end Scripted

namespace Channel

theorem carries_lasting (unstepped : Rule.first? rules stepCommand = none) :
    Carries fun before after : Channel Scripted => before.interpreter.rules = rules → Lasting rules before →
      after.interpreter.rules = rules ∧ Lasting rules after where
  refl _ same lasting := ⟨same, lasting⟩
  trans begun ended same lasting :=
    have ⟨middle, still⟩ := begun same lasting
    ended middle still
  prints text channel same lasting := by
    refine ⟨?_, by rwa [Lasting, sendings_write]⟩
    unfold write
    split <;> exact same
  asks command channel same lasting := by
    have interpreter := (interpreter_execute command channel).1
    refine ⟨(congrArg Scripted.rules interpreter).trans ((channel.interpreter.rules_answer command).trans same), ?_⟩
    intro sending member applies
    rw [Talk.sendings_execute] at member
    rcases List.mem_append.mp member with old | new
    · exact lasting sending old applies
    · obtain rfl := List.mem_singleton.mp new
      obtain ⟨rule, ruled⟩ : ∃ rule, Rule.first? rules command = some rule := Option.isSome_iff_exists.mp applies
      have other : command ≠ stepCommand := by
        rintro rfl
        cases unstepped.symm.trans ruled
      have found : channel.interpreter.rule? command = some rule := by
        rw [Scripted.rule?, same]
        exact ruled
      change (Rule.first? rules command).map Rule.reply = some (channel.interpreter.answer command).1
      rw [ruled, Scripted.answer_of_rule found other]
      rfl

/-- What a look that ended in some way did: the program said nothing, an interpreter that owed no answer owes
none unless the look ended fatally, and what rules answered leaves the replies of the list. -/
structure Looked (rules : List Rule) (before : Channel Scripted) (ended : Option Failure) (after : Channel Scripted) :
    Prop where
  output : after.output = before.output
  calm : (∀ failure, ended = some failure → failure.isFatal = false) → after.isStalled = before.isStalled
  sent : ∃ more, after.sendings = before.sendings ++ more ∧
    ((∀ sending ∈ more, sending.IsRuled rules) → before.interpreter.rules = rules →
      after.interpreter.rules = rules ∧ after.interpreter.replies = before.interpreter.replies ∧
        after.interpreter.ruledSteps ≤ before.interpreter.ruledSteps)

theorem Looked.trans {first middle last : Channel Scripted} {ended failure? : Option Failure}
    (calm : ∀ failure, ended = some failure → failure.isFatal = false) (begun : Looked rules first ended middle)
    (further : Looked rules middle failure? last) : Looked rules first failure? last := by
  refine ⟨further.output.trans begun.output, fun quiet => (further.calm quiet).trans (begun.calm calm), ?_⟩
  obtain ⟨some, early, kept⟩ := begun.sent
  obtain ⟨more, late, still⟩ := further.sent
  refine ⟨some ++ more, by rw [late, early, List.append_assoc], ?_⟩
  intro ruled same
  obtain ⟨rulesThen, repliesThen, stepsThen⟩ := kept (fun sending member => ruled _ (List.mem_append_left _ member)) same
  obtain ⟨rulesNow, repliesNow, stepsNow⟩ :=
    still (fun sending member => ruled _ (List.mem_append_right _ member)) rulesThen
  exact ⟨rulesNow, repliesNow.trans repliesThen, Nat.le_trans stepsNow stepsThen⟩

theorem looked_execute (command : String) (channel : Channel Scripted) :
    let ran := (Talk.execute command).runOver channel
    channel.Looked rules (failure? ran.1) ran.2 := by
  have asked : (channel.ask command).2.output = channel.output := by rw [output, records_ask]; rfl
  have output : ((Talk.execute command).runOver channel).2.output = channel.output := by
    rcases Talk.behind_execute command channel with same | ⟨diagnostics, wrote⟩
    · rw [same]
      exact asked
    · rw [wrote]
      exact (output_write_diagnostics ..).trans asked
  obtain ⟨interpreter, isStalled⟩ := interpreter_execute command channel
  refine ⟨output, ?_, [channel.sending command], Talk.sendings_execute command channel, ?_⟩
  · intro calm
    rw [isStalled]
    change (channel.isStalled || (channel.ask command).1 == .pending) = channel.isStalled
    cases reply : (channel.ask command).1 with
    | said | closed => exact Bool.or_false _
    | pending =>
      have fatal := calm (.channel command) (by rw [Talk.runOver_execute, reply]; rfl)
      cases fatal
  · intro ruled same
    obtain ⟨rule, applies, _⟩ := Option.map_eq_some_iff.mp (ruled _ (List.mem_singleton_self _))
    have found : (Rule.first? channel.interpreter.rules command).isSome := by
      rw [same]
      exact Option.isSome_of_eq_some applies
    rw [interpreter, ← same]
    exact Scripted.answer_ruled found

theorem judgement_looked {means : Means} (silent : means.prints = false) :
    Judgement means (Looked rules) where
  rests channel _ := ⟨rfl, fun _ => rfl, [], by simp, fun _ same => ⟨same, rfl, Nat.le_refl _⟩⟩
  prints may := by rw [silent] at may; cases may
  asks := looked_execute
  goesOn begun further := begun.trans (by simp) further
  catching _ _ _ _ failure _ calm begun further := begun.trans (fun _ same => Option.some.inj same ▸ calm) further

end Channel

/-- A look at the paused program: what it sent, and whether it found a condition to hold. -/
structure Glimpse where
  asked : List Sending
  outcome : Except Failure Bool

/-- Rules answered everything, nothing went wrong that ends the session, and no condition held. -/
structure Glimpse.Harmless (rules : List Rule) (glimpse : Glimpse) : Prop where
  ruled : ∀ sending ∈ glimpse.asked, sending.IsRuled rules
  calm : ∀ failure, glimpse.outcome = .error failure → failure.isFatal = false
  denied : glimpse.outcome ≠ .ok true

theorem Glimpse.Harmless.of_denied {glimpse : Glimpse} (ruled : ∀ sending ∈ glimpse.asked, sending.IsRuled rules)
    (denied : glimpse.outcome.toOption = some false) : glimpse.Harmless rules := by
  refine ⟨ruled, fun failure failed => ?_, fun held => ?_⟩
  · rw [failed] at denied
    cases denied
  · rw [held] at denied
    cases denied

/-- The look that an inspection is, where `affirms` tells whether its result is that a condition holds. -/
def Debuggee.glimpse [Interpreter σ] (debuggee : Debuggee σ) (talk : Talk σ α) (affirms : α → Bool) : Glimpse :=
  let (outcome, later) := debuggee.during talk
  ⟨later.channel.sendings.drop debuggee.channel.sendings.length, outcome.map affirms⟩

namespace Channel

/-- A run with looks beside the same run without them: but for what the looks asked, the same was sent and
answered and the same was said by the program, and the interpreters answer alike. -/
structure Shadows (rules : List Rule) (inserted : List Sending) (plain observed : Channel Scripted) : Prop where
  alike : Alike rules plain observed
  output : observed.output = plain.output
  known : ∀ sending ∈ inserted, sending ∈ observed.sendings
  sent : (observed.sendings.filter (· ∉ inserted)).map Sending.exchange = plain.sendings.map Sending.exchange

variable {inserted : List Sending} {plain observed : Channel Scripted}

theorem Shadows.abreast {laterPlain laterObserved : Channel Scripted} (shadows : Shadows rules inserted plain observed)
    (abreast : Abreast rules plain observed laterPlain laterObserved) :
    Shadows rules inserted laterPlain laterObserved := by
  obtain ⟨happened, plainLog, observedLog⟩ := abreast.happened
  obtain ⟨more, sent⟩ : ∃ more, laterObserved.sendings = observed.sendings ++ more := by
    simp [sendings, observedLog, List.mapIdx_append]
  have exchanged : more.map Sending.exchange = happened.filterMap Happening.exchange? := by
    have all := laterObserved.map_exchange_sendings
    rw [sent, observedLog, List.map_append, map_exchange_sendings, List.filterMap_append] at all
    exact List.append_cancel_left all
  refine ⟨abreast.alike, ?_, fun sending member => sent ▸ List.mem_append_left _ (shadows.known sending member), ?_⟩
  · have output := shadows.output
    simp only [Channel.output, records] at output ⊢
    simp only [plainLog, observedLog, List.filterMap_append, List.filter_append, output]
  · have kept : more.filter (· ∉ inserted) = more := by
      simp only [List.filter_eq_self, decide_eq_true_eq]
      exact fun sending added known => new_sendings sent added (shadows.known sending known)
    rw [sent, List.filter_append, kept, List.map_append, shadows.sent, exchanged, map_exchange_sendings,
      map_exchange_sendings, plainLog, List.filterMap_append]

theorem Shadows.looked {later : Channel Scripted} {ended : Option Failure} {asked : List Sending}
    (shadows : Shadows rules inserted plain observed) (looked : Looked rules observed ended later)
    (added : later.sendings = observed.sendings ++ asked) (ruled : ∀ sending ∈ asked, sending.IsRuled rules)
    (calm : ∀ failure, ended = some failure → failure.isFatal = false) :
    Shadows rules (inserted ++ asked) plain later := by
  obtain ⟨more, sent, kept⟩ := looked.sent
  obtain rfl : more = asked := List.append_cancel_left (sent.symm.trans added)
  obtain ⟨rulesNow, repliesNow, stepsNow⟩ := kept ruled shadows.alike.otherRules
  obtain ⟨plainRules, _, replies, steps, isStalled⟩ := shadows.alike
  refine ⟨⟨plainRules, rulesNow, replies.trans repliesNow.symm, Nat.le_trans stepsNow steps,
    isStalled.trans (looked.calm calm).symm⟩, looked.output.trans shadows.output, ?_, ?_⟩
  · intro sending member
    rw [sent]
    rcases List.mem_append.mp member with old | new
    · exact List.mem_append_left _ (shadows.known sending old)
    · exact List.mem_append_right _ new
  · have gone : more.filter (· ∉ inserted ++ more) = [] := by
      simp +contextual [List.filter_eq_nil_iff]
    have kept : observed.sendings.filter (· ∉ inserted ++ more) = observed.sendings.filter (· ∉ inserted) := by
      apply List.filter_congr
      intro sending old
      have fresh : sending ∉ more := fun new => new_sendings sent new old
      simp [fresh]
    rw [sent, List.filter_append, gone, List.append_nil, kept, shadows.sent]

end Channel

/-- A harmless look leaves the stack alone, and a shadow is one still. -/
theorem Debuggee.during_shadows {talk : Talk Scripted α} (built : talk.Built ⟨false, true⟩)
    {debuggee later : Debuggee Scripted} {outcome : Except Failure α} (ran : debuggee.during talk = (outcome, later))
    {affirms : α → Bool} (harmless : (debuggee.glimpse talk affirms).Harmless rules) {plain : Channel Scripted}
    {inserted : List Sending} (shadows : Channel.Shadows rules inserted plain debuggee.channel) :
    later.stack = debuggee.stack ∧
      Channel.Shadows rules (inserted ++ (debuggee.glimpse talk affirms).asked) plain later.channel := by
  have looked : debuggee.channel.Looked rules _ _ := debuggee.during_judged (Channel.judgement_looked rfl) built
  obtain ⟨ruled, calm, _⟩ := harmless
  rw [ran] at looked
  simp only [glimpse, ran] at ruled calm ⊢
  obtain ⟨more, sent, _⟩ := looked.sent
  rw [sent, List.drop_left] at ruled ⊢
  refine ⟨?_, shadows.looked looked sent ruled ?_⟩
  · cases ran
    rfl
  · intro failure ended
    cases outcome <;> cases ended
    exact calm failure rfl

end RStepper
