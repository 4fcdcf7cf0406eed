import RStepper.Proofs.HookPlan
import RStepper.Proofs.ScriptPosition

/-! When the functions of the script are found. Behind a statement that the interpreter ran by itself they are listed and
hooked up before the next line is sent. Behind a statement whose calls were stepped through they are not: the step that
returns to the script sends nothing but the step command. -/

namespace RStepper
variable {σ : Type}

/-- The functions are listed, and every one that is not the debugger's own is hooked up, in the order of the listing. -/
def Discovery (sendings : List Sending) : Prop :=
  ∃ listing response hooks, sendings = listing :: hooks ∧ listing.Succeeds Instrument.listFunctions .printed ∧
    listing.response? = some response ∧ List.Forall₂ (fun entry sending => sending.Succeeds entry.1 entry.2)
      ((Instrument.targets response.output).flatMap Instrument.commands) hooks

namespace Instrument
variable [Interpreter σ]

theorem loadFunctions_discovers {channel later : Channel σ} (ran : loadFunctions.runOver channel = (.ok (), later)) :
    ∃ found, later.sendings = channel.sendings ++ found ∧ Discovery found := by
  obtain ⟨hooks, grown, carried⟩ := loadFunctions_carried channel
  rw [ran] at grown carried
  obtain _ | ⟨listed, hooked⟩ := carried.fulfilled
  obtain ⟨response, found, _⟩ := Option.map_eq_some_iff.mp listed.response
  rw [found, Option.elim_some, hookPlan_eq] at hooked
  exact ⟨_, grown, _, response, hooks, rfl, listed, found, hooked⟩

end Instrument

namespace ScriptFrame
variable [Interpreter σ]

theorem finishStatement_discovers {response : Response} {before after : Scene ScriptFrame σ}
    (ran : (finishStatement response).runOver before = (.ok (), after)) :
    ∃ found, after.channel.sendings = before.channel.sendings ++ found ∧ Discovery found := by
  obtain ⟨_, wrote, emitted, listed⟩ := Act.bind_ok ran
  obtain ⟨_, printed, rfl⟩ := Act.talk_run emitted
  obtain ⟨_, loaded, rfl⟩ := Act.talk_run listed
  cases printed
  obtain ⟨found, grown, discovery⟩ := Instrument.loadFunctions_discovers loaded
  rw [Channel.sendings_write] at grown
  exact ⟨found, grown, discovery⟩

/-- Between two scenes a statement got its lines, and then the functions were found. -/
def Found (before after : Scene ScriptFrame σ) : Prop :=
  ∃ more found, after.channel.sendings = before.channel.sendings ++ more ∧ more = Sending.statement more ++ found ∧
    Discovery found

theorem Runs.discovers {command : String} {ahead : List String} {before after : Scene ScriptFrame σ} {entered : Bool}
    (runs : Runs command ahead before entered after) (finishes : entered = false) : Found before after := by
  induction runs with
  | enters => cases finishes
  | @goesOn command _ _ before _ _ _ _ answered kind _ ih =>
    obtain ⟨sent, _⟩ := Talk.succeeds_expecting answered
    have asks : (before.channel.sending command).asksForMore = true := by
      simp [Talk.asksForMore_of_ok answered, kind]
    obtain ⟨more, found, grown, split, discovery⟩ := ih finishes
    dsimp only at grown
    refine ⟨before.channel.sending command :: more, found, ?_, ?_, discovery⟩
    · rw [grown, sent, List.append_assoc, List.singleton_append]
    · rw [Sending.statement, if_pos asks, List.cons_append, ← split]
  | @finishes command _ before _ _ _ answered kind finished =>
    obtain ⟨sent, _⟩ := Talk.succeeds_expecting answered
    have complete : (before.channel.sending command).asksForMore = false := by
      rw [Talk.asksForMore_of_ok answered, beq_false_of_ne kind]
    obtain ⟨found, grown, discovery⟩ := finishStatement_discovers finished
    refine ⟨before.channel.sending command :: found, found, ?_, ?_, discovery⟩
    · rw [grown, sent, List.append_assoc, List.singleton_append]
    · simp [Sending.statement, complete]

end ScriptFrame

namespace Debuggee
variable [Interpreter σ]

/-- A step of the script that enters no call runs a statement and finds the functions behind it. -/
theorem stepScript_discovers {source : String} {debuggee later : Debuggee σ} (valid : debuggee.stack.Valid source)
    (bottom : debuggee.stack.calls = []) (next : debuggee.stack.hasNext = true)
    (stepped : debuggee.stepScript = (.ok (), later)) (complete : later.stack.calls = []) :
    ∃ more found, later.channel.sendings = debuggee.channel.sendings ++ more ∧ more = Sending.statement more ++ found ∧
      Discovery found := by
  have active : debuggee.stack.script.isActive = true := by simpa [Stack.hasNext, bottom] using next
  have settled := valid.settled bottom
  obtain ⟨scene, ran, rfl⟩ := stepScript_went stepped
  cases ScriptFrame.advance_cases ran with
  | ends front =>
    rw [settled.skipIgnorable] at front
    have ended := settled.isActive_eq_false.mpr (by simp [front])
    simp [ended] at active
  | enters _ runs =>
    obtain ⟨callee, _, change⟩ := runs.ran.calls rfl
    dsimp only at complete
    rw [bottom, change, StackChange.none, List.nil_append, Stack.changed_script] at complete
    cases complete
  | finishes _ runs => exact runs.discovers rfl

theorem hasNext_of_advance {debuggee later : Debuggee σ} (advanced : debuggee.advance = (.ok true, later)) :
    debuggee.stack.hasNext = true := by
  cases advance_cases advanced with
  | script bottom active => simpa only [Stack.hasNext, bottom] using active
  | call calls active => simpa only [Stack.hasNext, calls] using active

/-- The step of a call that leaves the script on top sends the step command only. -/
theorem stepCall_returning {source : String} {debuggee later : Debuggee σ} {top : CallFrame} {below : List CallFrame}
    (valid : debuggee.stack.Valid source) (calls : debuggee.stack.calls = top :: below)
    (stepped : debuggee.stepCall top below = (.ok (), later)) (complete : later.stack.calls = []) :
    debuggee.channel.Grows (· = stepCommand) later.channel := by
  have sound : top.Sound := valid.calls top (by simp [calls])
  obtain ⟨response, asked, scene, replied, steps, rfl⟩ := stepCall_ok sound.isActive stepped
  have steppingOnly : (Talk.execute stepCommand : Talk σ Response).Sends (· = stepCommand) := Talk.sends_execute rfl
  have first := steppingOnly debuggee.channel
  rw [replied] at first
  cases steps with
  | stays _ same =>
    have moved := (same.sound sound).isActive
    simp only [same.change, StackChange.none, Stack.changed_active _ moved] at complete
    cases complete
  | enters _ _ =>
    simp only [Stack.changed_active _ sound.isActive] at complete
    cases complete
  | returns _ announced =>
    have printed : asked.Grows (· = stepCommand) (asked.write ⟨response.output, false⟩) := .of_eq (asked.sendings_write _)
    have lining : (CallFrame.returnLine response : Talk σ (Option Int)).Sends (· = stepCommand) :=
      @CallFrame.sends_returnLine _ _ (· = stepCommand) rfl response
    have lined := lining (asked.write ⟨response.output, false⟩)
    rw [announced] at lined
    exact first.trans (printed.trans lined)
  | finishes _ _ => exact first

theorem operate_looking (debuggee : Debuggee σ) {operation : Operation} (looks : operation ≠ .advance) :
    (debuggee.operate operation).stack = debuggee.stack ∧
      debuggee.channel.Grows IsInspection (debuggee.operate operation).channel := by
  cases operation with
  | advance => exact absurd rfl looks
  | evaluate expression => exact ⟨rfl, Inspect.sends_evaluate expression debuggee.channel⟩
  | condition expression => exact ⟨rfl, Inspect.sends_conditionHolds expression debuggee.channel⟩
  | inspection => exact ⟨rfl, Inspect.sends_visible debuggee.channel⟩

theorem after_looking (source : String) (interpreter : σ) (operations : List Operation) {looks : List Operation}
    (looking : .advance ∉ looks) :
    let before := after source interpreter operations
    let now := after source interpreter (operations ++ looks)
    now.stack = before.stack ∧ before.channel.Grows IsInspection now.channel := by
  induction looks using List.reverseRecOn with
  | nil =>
    rw [List.append_nil]
    exact ⟨rfl, .refl _⟩
  | append_singleton looks look ih =>
    rw [List.mem_append, not_or] at looking
    obtain ⟨stays, inspects⟩ := ih looking.1
    obtain ⟨same, last⟩ := (after source interpreter (operations ++ looks)).operate_looking
      (Ne.symm (by simpa using looking.2))
    rw [← List.append_assoc, after_concat]
    exact ⟨same.trans stays, inspects.trans last⟩

/-- A step of a script's statement that goes well and leaves no call in progress completes the statement. Up to the first
line of the next one, the functions are found if the statement ran by itself; if its calls were stepped through, the step
command is all that the debugger sends of its own. -/
theorem functions_found {source : String} {interpreter : σ} {operations : List Operation} {later : Debuggee σ}
    (advanced : (after source interpreter operations).advance = (.ok true, later)) (complete : later.stack.calls = []) :
    let before := after source interpreter operations
    (before.stack.calls = [] → ∃ found, before.adds .advance = before.given .advance ++ found ∧ Discovery found) ∧
    (before.stack.calls ≠ [] → ∀ sending ∈ before.adds .advance, sending.command = stepCommand) ∧
    ∀ looks, .advance ∉ looks →
      let now := after source interpreter (operations ++ .advance :: looks)
      now.stack = later.stack ∧ later.channel.Grows IsInspection now.channel ∧
        (now.stack.hasNext = true → ∃ number statement,
          StandsAt source interpreter (operations ++ .advance :: looks) number statement) := by
  intro before
  have valid : before.stack.Valid source := after_valid source interpreter operations
  have reached : before.operate .advance = later := congrArg Prod.snd advanced
  refine ⟨?_, ?_, ?_⟩
  · intro bottom
    have next := hasNext_of_advance advanced
    rw [advance_of_script bottom next] at advanced
    rcases stepped : before.stepScript with ⟨failure | _, behind⟩ <;> rw [stepped] at advanced
    · cases advanced
    obtain rfl : behind = later := congrArg Prod.snd advanced
    obtain ⟨more, found, sent, split, discovery⟩ := stepScript_discovers valid bottom next stepped complete
    rw [← reached] at sent
    have adds : before.adds .advance = more := adds_of_sendings sent
    refine ⟨found, ?_, discovery⟩
    rwa [given, bottom, List.isEmpty_nil, if_pos rfl, adds]
  · intro calling
    obtain ⟨top, below, calls⟩ := List.exists_cons_of_ne_nil calling
    rw [advance_of_call valid calls] at advanced
    rcases stepped : before.stepCall top below with ⟨failure | _, behind⟩ <;> rw [stepped] at advanced
    · cases advanced
    obtain rfl : behind = later := congrArg Prod.snd advanced
    obtain ⟨more, sent, steps⟩ := stepCall_returning valid calls stepped complete
    rw [← reached] at sent
    rwa [adds_of_sendings sent]
  · intro looks looking now
    have split : operations ++ .advance :: looks = (operations ++ [.advance]) ++ looks := by simp
    obtain ⟨stays, inspects⟩ := after_looking source interpreter (operations ++ [.advance]) looking
    rw [after_concat, show (after source interpreter operations).operate .advance = later from reached,
      ← split] at stays inspects
    refine ⟨stays, inspects, fun next => standsAt_of_bottom ?_ next⟩
    rw [stays, complete]

/-- The first statement of `f()` and `x` is stepped through, and the second one runs by itself. -/
def steppedThrough : Scripted where
  rules := [⟨"Filter(", .said "character(0)\nBrowse[1]> " ""⟩]
  replies := [
    .said "debugging in: f()\nBrowse[2]> " "",
    .said "Tracing f() on entry\n[1] \"f\"\ndebug: 7\nBrowse[2]> " "",
    .said "Tracing f() on exit\n[1] \"f\"\nexiting from: f()\nBrowse[1]> " "",
    .said "Browse[1]> " ""]
  ruledSteps := 0

private theorem steppedThrough_run :
    let entered := after "f()\nx" steppedThrough [.advance]
    let returned := after "f()\nx" steppedThrough [.advance, .advance]
    entered.advance.1.toOption = some true ∧ entered.stack.calls = [⟨.expression, "f", .paused 1⟩] ∧
      returned.stack.calls = [] ∧ returned.stack.hasNext = true ∧ returned.advance.1.toOption = some true ∧
      returned.advance.2.stack.calls = [] ∧
      returned.channel.sent = ["f()", stepCommand, Instrument.listFunctions, stepCommand] ∧
      returned.advance.2.channel.sent = returned.channel.sent ++ ["x", Instrument.listFunctions] := by
  decide +kernel

/-- Between the return of `f()` and the next statement the functions are not listed. -/
theorem steppedThrough_unlisted :
    let entered := after "f()\nx" steppedThrough [.advance]
    let returned := after "f()\nx" steppedThrough [.advance, .advance]
    entered.advance = (.ok true, returned) ∧ entered.stack.calls = [⟨.expression, "f", .paused 1⟩] ∧
      returned.stack.calls = [] ∧
      returned.channel.sent = ["f()", stepCommand, Instrument.listFunctions, stepCommand] ∧
      returned.advance.2.channel.sent = returned.channel.sent ++ ["x", Instrument.listFunctions] := by
  intro entered returned
  obtain ⟨went, calls, alone, _, _, _, sent, next⟩ := steppedThrough_run
  exact ⟨eq_ok_of_toOption went, calls, alone, sent, next⟩

theorem steppedThrough_found :
    let entered := after "f()\nx" steppedThrough [.advance]
    let returned := after "f()\nx" steppedThrough [.advance, .advance]
    (∀ sending ∈ entered.adds .advance, sending.command = stepCommand) ∧
      (∃ number statement, StandsAt "f()\nx" steppedThrough [.advance, .advance] number statement) ∧
      ∃ found, returned.adds .advance = returned.given .advance ++ found ∧ Discovery found := by
  intro entered returned
  obtain ⟨went, calls, alone, next, again, ended, _, _⟩ := steppedThrough_run
  obtain ⟨_, stepping, behind⟩ := functions_found (eq_ok_of_toOption went) alone
  obtain ⟨listing, _, _⟩ := functions_found (eq_ok_of_toOption again) ended
  obtain ⟨_, _, stands⟩ := behind [] (List.not_mem_nil)
  exact ⟨stepping (by rw [calls]; simp), stands next, listing alone⟩

end Debuggee
end RStepper
