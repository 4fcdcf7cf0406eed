import RStepper.Interpreter.Scripted
import RStepper.Proofs.Exchanges

/-! What an interpreter still answers. A debugger that is handed a failure of the channel stops asking, so
what counts is how long a series of commands is answered without a gap: whether it can come to a command
that is left waiting, and how many steps can be among the commands. An advance that leaves something to run
uses up such an answer or a line of the script. -/

namespace RStepper

namespace Interpreter
variable {σ : Type} [Interpreter σ]

/-- The interpreter behind a series of commands, if it answered all of them. -/
def answered? (state : σ) : List String → Option σ
  | [] => some state
  | command :: later =>
    match answer state command with
    | (.said .., next) => answered? next later
    | (.closed, _) => none
    | (.pending, _) => none

/-- Whatever it is asked, every command is answered or finds the channel closed. -/
def NeverBlocks (state : σ) : Prop :=
  ∀ commands later, answered? state commands = some later → ∀ command, (answer later command).1 ≠ .pending

/-- Whatever it is asked, it answers at most so many steps before the channel closes. -/
def AnswersAtMost (state : σ) (bound : Nat) : Prop :=
  ∀ commands later, answered? state commands = some later → commands.count stepCommand ≤ bound

variable {state later : σ} {commands : List String}

theorem answered?_append (more : List String) (answered : answered? state commands = some later) :
    answered? state (commands ++ more) = answered? later more := by
  induction commands generalizing state with
  | nil =>
    cases answered
    rfl
  | cons command rest ih =>
    rw [answered?] at answered
    rw [List.cons_append, answered?]
    split at answered
    · exact ih answered
    · cases answered
    · cases answered

theorem NeverBlocks.behind (prompt : NeverBlocks state) (answered : answered? state commands = some later) :
    NeverBlocks later :=
  fun more last further => prompt (commands ++ more) last ((answered?_append more answered).trans further)

theorem AnswersAtMost.behind {bound : Nat} (bounded : AnswersAtMost state bound)
    (answered : answered? state commands = some later) :
    commands.count stepCommand ≤ bound ∧ AnswersAtMost later (bound - commands.count stepCommand) := by
  refine ⟨bounded commands later answered, ?_⟩
  intro more last further
  have both := bounded (commands ++ more) last ((answered?_append more answered).trans further)
  rw [List.count_append] at both
  omega

/-- Every interpreter has such a bound: its patience. -/
theorem answersAtMost_patience (state : σ) : AnswersAtMost state (patience state) := by
  intro commands
  induction commands generalizing state with
  | nil => simp
  | cons command rest ih =>
    intro last answered
    rw [answered?] at answered
    split at answered
    next body diagnostics next said =>
      have same : (answer state command).2 = next := congrArg Prod.snd said
      have fewer := ih next last answered
      by_cases step : command = stepCommand
      · subst step
        have less := patience_step_lt state (by rw [said]; rfl)
        rw [same] at less
        rw [List.count_cons_self]
        omega
      · have spent := patience_answer_le state command
        rw [same] at spent
        rw [List.count_cons_of_ne step]
        omega
    · cases answered
    · cases answered

end Interpreter

namespace Scripted
open Interpreter

/-- Where the answer to a command comes from, and what is left of the script behind it. -/
inductive Source (script : Scripted) (command : String) : Reply × Scripted → Prop where
  | rule {rule : Rule} {ruledSteps : Nat} (member : rule ∈ script.rules) (applies : rule.applies command = true) :
      Source script command (rule.reply, { script with ruledSteps })
  | list {reply : Reply} {rest : List Reply} (next : script.replies = reply :: rest) :
      Source script command (reply, { script with replies := rest })
  | nothing : Source script command (.closed, script)

theorem answer_source (script : Scripted) (command : String) : script.Source command (script.answer command) := by
  unfold answer
  cases found : script.rule? command with
  | some rule =>
    have member : rule ∈ script.rules := List.mem_of_find?_eq_some found
    have applies : rule.applies command = true := by simpa using List.find?_some found
    dsimp only
    split
    · split
      · exact .nothing
      · exact .rule member applies
    · exact .rule member applies
  | none =>
    dsimp only
    split
    · exact .nothing
    next reply rest replies => exact .list replies

theorem Source.left {script : Scripted} {command : String} {answered : Reply × Scripted}
    (source : script.Source command answered) :
    answered.2.rules = script.rules ∧ answered.2.replies <:+ script.replies := by
  cases source with
  | rule | nothing => exact ⟨rfl, List.suffix_rfl⟩
  | list next => exact ⟨rfl, next ▸ List.suffix_cons ..⟩

theorem left_of_answered {script later : Scripted} {commands : List String}
    (answered : answered? script commands = some later) :
    later.rules = script.rules ∧ later.replies <:+ script.replies := by
  induction commands generalizing script with
  | nil =>
    cases answered
    exact ⟨rfl, List.suffix_rfl⟩
  | cons command rest ih =>
    have first := (answer_source script command).left
    rw [answered?] at answered
    split at answered
    next next said =>
      rw [show script.answer command = _ from said] at first
      obtain ⟨rules, replies⟩ := ih answered
      exact ⟨rules.trans first.1, replies.trans first.2⟩
    · cases answered
    · cases answered

/-- A scripted interpreter none of whose replies hangs never blocks. -/
theorem neverBlocks_of_replies {script : Scripted} (rules : ∀ rule ∈ script.rules, rule.reply ≠ .pending)
    (replies : ∀ reply ∈ script.replies, reply ≠ .pending) : NeverBlocks script := by
  intro commands later answered command
  obtain ⟨sameRules, fewerReplies⟩ := left_of_answered answered
  have source := answer_source later command
  change (later.answer command).1 ≠ .pending
  generalize later.answer command = answer at source
  cases source with
  | rule member => exact rules _ (sameRules ▸ member)
  | list next => exact replies _ (fewerReplies.mem (next ▸ List.mem_cons_self))
  | nothing => exact nofun

theorem answersAtMost_replies {script : Scripted} (free : ∀ rule ∈ script.rules, rule.applies stepCommand = false) :
    AnswersAtMost script script.replies.length := by
  intro commands
  induction commands generalizing script with
  | nil => simp
  | cons command rest ih =>
    intro last answered
    have source := answer_source script command
    rw [answered?] at answered
    split at answered
    next body diagnostics next said =>
      rw [show script.answer command = _ from said] at source
      have fewer := ih (source.left.1 ▸ free) last answered
      have shorter := source.left.2.length_le
      by_cases step : command = stepCommand
      · subst step
        generalize taken : (Reply.said body diagnostics, next) = reply at source
        cases source with
        | rule member applies => simp [free _ member] at applies
        | nothing => cases taken
        | list replies =>
          cases taken
          rw [List.count_cons_self, replies, List.length_cons]
          exact Nat.succ_le_succ fewer
      · rw [List.count_cons_of_ne step]
        exact Nat.le_trans fewer shorter
    · cases answered
    · cases answered

end Scripted

namespace Channel
variable {σ : Type} [Interpreter σ]
open Interpreter

/-- The interpreter answered all commands between the two channels. -/
def Answered (before after : Channel σ) : Prop :=
  ∃ commands, answered? before.interpreter commands = some after.interpreter

theorem Answered.trans {first middle last : Channel σ} (begun : first.Answered middle) (ended : middle.Answered last) :
    first.Answered last := by
  obtain ⟨early, begun⟩ := begun
  obtain ⟨late, ended⟩ := ended
  exact ⟨early ++ late, (answered?_append late begun).trans ended⟩

theorem Answered.neverBlocks {before after : Channel σ} (answered : before.Answered after)
    (prompt : NeverBlocks before.interpreter) : NeverBlocks after.interpreter := by
  obtain ⟨commands, answered⟩ := answered
  exact prompt.behind answered

theorem Answered.atMost {before after : Channel σ} (answered : before.Answered after) {bound : Nat}
    (bounded : AnswersAtMost before.interpreter bound) : ∃ rest ≤ bound, AnswersAtMost after.interpreter rest := by
  obtain ⟨commands, answered⟩ := answered
  exact ⟨_, Nat.sub_le .., (bounded.behind answered).2⟩

/-- How the interpreter served an act that ended with this failure, or with none: all was answered unless
the failure ends the session, and an interpreter that never blocks owes no more than before. -/
structure Served (before : Channel σ) (failure? : Option Failure) (after : Channel σ) : Prop where
  answered : (∀ failure ∈ failure?, failure.isFatal = false) → before.Answered after
  prompt : NeverBlocks before.interpreter → after.isStalled = before.isStalled

theorem Served.trans {first middle last : Channel σ} {ended failure? : Option Failure}
    (calm : ∀ failure ∈ ended, failure.isFatal = false) (begun : first.Served ended middle)
    (further : middle.Served failure? last) : first.Served failure? last :=
  have answered := begun.answered calm
  ⟨fun quiet => answered.trans (further.answered quiet), fun prompt =>
    (further.prompt (answered.neverBlocks prompt)).trans (begun.prompt prompt)⟩

theorem Served.of_same {before after : Channel σ} (failure? : Option Failure)
    (interpreter : after.interpreter = before.interpreter) (isStalled : after.isStalled = before.isStalled) :
    before.Served failure? after :=
  ⟨fun _ => ⟨[], by rw [interpreter]; rfl⟩, fun _ => isStalled⟩

end Channel

section Serving
variable {σ : Type} [Interpreter σ]
open Interpreter

theorem Channel.answered?_ask {command body diagnostics : String} {channel : Channel σ}
    (said : (channel.ask command).1 = .said body diagnostics) :
    answered? channel.interpreter [command] = some (channel.ask command).2.interpreter := by
  have answer : answer channel.interpreter command = (.said body diagnostics, (channel.ask command).2.interpreter) :=
    Prod.ext said rfl
  simp only [answered?, answer]

theorem Talk.answered?_of_execute {command : String} {channel later : Channel σ} {response : Response}
    (ran : (execute command).runOver channel = (.ok response, later)) :
    answered? channel.interpreter [command] = some later.interpreter := by
  obtain ⟨body, diagnostics, said, _⟩ := execute_ok ran
  have same := (Channel.interpreter_execute command channel).1
  rw [ran] at same
  rw [same]
  exact Channel.answered?_ask said

theorem Talk.execute_served (command : String) (channel : Channel σ) :
    let ran := (execute command).runOver channel
    channel.Served (failure? ran.1) ran.2 := by
  obtain ⟨interpreter, isStalled⟩ := Channel.interpreter_execute command channel
  have gone (quits : ((execute command : Talk σ Response).runOver channel).1 = .error (.channel command)) :
      ¬ ∀ failure ∈ failure? ((execute command : Talk σ Response).runOver channel).1, failure.isFatal = false := by
    intro calm
    cases calm (.channel command) (by rw [quits]; rfl)
  have owes : (channel.ask command).2.isStalled = (channel.isStalled || (channel.ask command).1 == .pending) := rfl
  cases reply : (channel.ask command).1 with
  | said body diagnostics =>
    refine ⟨fun _ => ⟨[command], ?_⟩, fun _ => ?_⟩
    · rw [interpreter]
      exact Channel.answered?_ask reply
    · rw [isStalled, owes, reply]
      exact Bool.or_false _
  | closed =>
    refine ⟨fun calm => absurd calm (gone ?_), fun _ => ?_⟩
    · rw [runOver_execute, reply]
    · rw [isStalled, owes, reply]
      exact Bool.or_false _
  | pending =>
    refine ⟨fun calm => absurd calm (gone ?_), fun prompt => ?_⟩
    · rw [runOver_execute, reply]
    · exact absurd reply (prompt [] channel.interpreter rfl command)

/-- Everything that the debugger does is served. -/
theorem judgement_served (means : Means) : Judgement means (Channel.Served (σ := σ)) where
  rests channel failure? := .of_same failure? rfl rfl
  prints _ text channel := .of_same none (channel.interpreter_write _) (channel.isStalled_write _)
  asks := Talk.execute_served
  goesOn := .trans (by simp)
  catching _ _ _ _ _ _ harmless := .trans (by simpa using harmless)

theorem CallFrame.answered?_advance {scene later : Scene CallFrame σ} (active : scene.frame.isActive = true)
    (stepped : (advance : Act CallFrame σ Unit).runOver scene = (.ok (), later)) :
    ∃ more, answered? scene.channel.interpreter (stepCommand :: more) = some later.channel.interpreter := by
  rw [advance, Act.runOver_bind_frame, if_pos active] at stepped
  obtain ⟨response, middle, asked, followed⟩ := Act.bind_ok stepped
  obtain ⟨channel, answered, rfl⟩ := Act.talk_run asked
  have served := (built_follow rfl response { scene with channel }).judged (judgement_served Means.all)
  rw [followed] at served
  obtain ⟨more, further⟩ := served.answered (by simp [failure?])
  exact ⟨more, (answered?_append more (Talk.answered?_of_execute answered)).trans further⟩

end Serving

namespace Debuggee
variable {σ : Type} [Interpreter σ]
open Interpreter

/-- A bound on the advances that can leave something to run: the steps that are still answered, and the lines
of the script that are still to be read. -/
def AdvancesAtMost (debuggee : Debuggee σ) (count : Nat) : Prop :=
  ∃ answers, AnswersAtMost debuggee.channel.interpreter answers ∧ answers + debuggee.stack.script.linesLeft ≤ count

theorem stepCall_spends {debuggee later : Debuggee σ} {top : CallFrame} {below : List CallFrame} {count : Nat}
    (active : top.isActive = true) (stepped : debuggee.stepCall top below = (.ok (), later))
    (bounded : debuggee.AdvancesAtMost count) : ∃ rest < count, later.AdvancesAtMost rest := by
  obtain ⟨answers, answering, within⟩ := bounded
  obtain ⟨scene, ran, rfl⟩ := stepCall_went stepped
  obtain ⟨more, answered⟩ := CallFrame.answered?_advance active ran
  obtain ⟨spent, left⟩ := answering.behind answered
  have lines := linesLeft_changed_le { debuggee.stack with calls := scene.frame :: below } scene.change
  rw [List.count_cons_self] at spent left
  dsimp only at lines
  exact ⟨count - 1, by omega, _, left, by dsimp only; omega⟩

theorem stepScript_spends {debuggee later : Debuggee σ} {count : Nat} (stepped : debuggee.stepScript = (.ok (), later))
    (next : later.stack.hasNext = true) (bottom : debuggee.stack.calls = []) (bounded : debuggee.AdvancesAtMost count) :
    ∃ rest < count, later.AdvancesAtMost rest := by
  obtain ⟨answers, answering, within⟩ := bounded
  have served := debuggee.stepScript_judged (judgement_served Means.all) rfl
  have read := ScriptFrame.linesLeft_advance ⟨debuggee.stack.script, .none, debuggee.channel⟩
  rw [stepped] at served
  obtain ⟨rest, fewer, left⟩ := (served.answered (by simp [failure?])).atMost answering
  obtain ⟨scene, ran, rfl⟩ := stepScript_went stepped
  rw [ran] at read
  have lines := linesLeft_changed_le { debuggee.stack with script := scene.frame } scene.change
  dsimp only at lines read
  rcases read with shorter | ⟨halted, same⟩
  · exact ⟨count - 1, by omega, rest, left, by dsimp only; omega⟩
  · simp [same, Stack.changed, Stack.unwound, Stack.resumedAt, Stack.hasNext, StackChange.none, bottom, halted] at next

/-- An advance that leaves something to run takes a step's answer or a line of the script. -/
theorem advance_spends {debuggee later : Debuggee σ} {count : Nat} (stepped : debuggee.advance = (.ok true, later))
    (next : later.stack.hasNext = true) (bounded : debuggee.AdvancesAtMost count) :
    ∃ rest < count, later.AdvancesAtMost rest := by
  cases advance_cases stepped with
  | script bottom _ stepped => exact stepScript_spends stepped next bottom bounded
  | call _ active stepped => exact stepCall_spends active stepped bounded

end Debuggee
end RStepper
