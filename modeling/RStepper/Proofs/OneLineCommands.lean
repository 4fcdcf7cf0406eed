import RStepper.Proofs.Exchanges
import RStepper.Proofs.ResponseRange
import RStepper.Proofs.ScriptFeed
import RStepper.Proofs.StackInvariant
import RStepper.Proofs.StringLiterals

/-! A command is one line, so the first row of a response is the command and the rows below it are the interpreter's.
What goes into a command is escaped, or was read off a listing whose rows are no longer than a line. The lines of the
script are sent as they stand, and a script is cut at fewer breaks than a response. -/

namespace RStepper
variable {σ : Type}

/-- No break of either kind: the console reads the command as it was sent. -/
def OneLine (command : String) : Prop :=
  Text.BreakFree command.toList

instance : DecidablePred OneLine :=
  fun command => inferInstanceAs (Decidable (Text.BreakFree command.toList))

namespace OneLine
open Text

theorem append {first second : String} (begun : OneLine first) (ended : OneLine second) : OneLine (first ++ second) := by
  rw [OneLine, String.toList_append]
  exact BreakFree.append begun ended

theorem quoted {name : String} (free : OneLine name) : OneLine (Symbol.quoted name) := by
  unfold Symbol.quoted
  split
  · exact free
  · have escaped : BreakFree (Symbol.escapeBackquotes name.toList) := by
      apply BreakFree.flatMap
      intro c inside
      split
      · decide
      · exact free.subset (by simpa using inside)
    have mark : BreakFree [Symbol.backquote] := by decide
    rw [OneLine, String.toList_ofList]
    exact (mark.append escaped).append mark

theorem evaluationCommand (expression : String) : OneLine (Inspect.evaluationCommand expression) := by
  have escaped : OneLine (String.ofList (expression.toList.flatMap Inspect.escapeChar)) := by
    rw [OneLine, String.toList_ofList]
    exact Inspect.breakFree_escaped _
  have before : OneLine "eval(parse(text = \"" := by decide
  have after : OneLine "\"))" := by decide
  exact (before.append escaped).append after

theorem hookName {name : String} (free : OneLine name) (hook : Instrument.Hook) :
    OneLine (Instrument.hookName name hook) := by
  have start : OneLine Instrument.serviceStart := by decide
  have ending : OneLine hook.ending := by cases hook <;> decide
  exact (start.append free).append ending

theorem defineHook {name : String} (free : OneLine name) (hook : Instrument.Hook) :
    OneLine (Instrument.defineHook name hook) := by
  have literal : OneLine (String.ofList (Instrument.escapeLiteral name.toList)) := by
    rw [OneLine, String.toList_ofList]
    apply BreakFree.flatMap
    intro c inside
    split
    next mark => rcases mark with rfl | rfl <;> decide
    next => exact free.subset (by simpa using inside)
  have opening : OneLine " <- function() \x7b print(\"" := by decide
  have closing : OneLine "\") \x7d" := by decide
  exact (((free.hookName hook).quoted.append opening).append literal).append closing

/-- The hooks of a function are as many lines as commands. -/
theorem commands {name : String} (free : OneLine name) : ∀ entry ∈ Instrument.commands name, OneLine entry.1 := by
  have trace : OneLine "trace(" := by decide
  have comma : OneLine ", " := by decide
  have exit : OneLine ", exit = " := by decide
  have debug : OneLine "debug(" := by decide
  have close : OneLine ")" := by decide
  simp only [Instrument.commands, List.forall_mem_cons]
  refine ⟨free.defineHook .enter, free.defineHook .exit, ?_, ?_, nofun⟩
  · exact ((((trace.append free.quoted).append comma).append (free.hookName .enter).quoted).append exit).append
      (free.hookName .exit).quoted |>.append close
  · exact (debug.append free.quoted).append close

end OneLine

namespace Symbol
open Text

theorem subset_of_mem_quotedTexts {inside : Option (List Char)} {line text : List Char}
    (member : text ∈ quotedTexts inside line) : text ⊆ inside.getD [] ++ line := by
  fun_induction quotedTexts inside line with
  | case1 => cases member
  | case2 c rest ih =>
    have none : (if c = '"' then some [] else none : Option (List Char)).getD [] = [] := by split <;> rfl
    have within := ih member
    rw [none] at within
    exact fun _ own => List.mem_cons_of_mem c (within own)
  | case3 rest inside ih =>
    rcases List.mem_cons.mp member with rfl | member
    · exact fun _ own => List.mem_append_left _ (List.mem_reverse.mp own)
    · exact fun _ own => List.mem_append_right _ (List.mem_cons_of_mem _ (ih member own))
  | case4 inside c rest other ih =>
    intro one own
    have within := ih member own
    simp only [Option.getD_some, List.cons_append, List.mem_cons, List.mem_append] at within ⊢
    tauto

theorem oneLine_of_listed {listing name : String} (noCR : '\r' ∉ listing.toList) (member : name ∈ listed listing) :
    OneLine name := by
  obtain ⟨text, quoted, rfl⟩ := List.mem_map.mp member
  obtain ⟨line, row, inside⟩ := List.mem_flatMap.mp quoted
  have row := (List.mem_filter.mp row).1
  have free : BreakFree line := ⟨lf_not_mem_lines row, fun cr => noCR (subset_of_mem_lines row cr)⟩
  rw [OneLine, String.toList_ofList]
  exact free.subset (subset_of_mem_quotedTexts inside)

end Symbol

/-- A program's output is made of rows, whatever broke them. -/
theorem Response.cr_not_mem_output {text : String} {response : Response} (classified : classify text = some response) :
    '\r' ∉ response.output.toList := by
  rw [output_eq_block classified, String.toList_ofList]
  apply Text.cr_not_mem_joinLines
  intro line inside
  exact response.body_breakFree line (List.mem_of_mem_take (List.mem_of_mem_drop inside))

namespace Talk
variable [Interpreter σ]

theorem expecting_classified {command : String} {expected : List Kind} {channel later : Channel σ} {response : Response}
    (ran : (expecting command expected).runOver channel = (.ok response, later)) :
    ∃ body, Response.classify (command ++ "\n" ++ body) = some response := by
  obtain ⟨found, middle, executed, rest⟩ := bind_ok ran
  obtain ⟨body, _, _, classified⟩ := execute_ok executed
  split at rest <;> cases rest
  exact ⟨body, classified⟩

end Talk

section Commands
variable [Interpreter σ] {allowed : String → Prop} (oneLine : ∀ command, OneLine command → allowed command)
include oneLine
open Talk

/-- Functions are hooked up by one line each time: their names were read off a listing. -/
theorem allowsSteps_of_oneLine : AllowsSteps σ allowed where
  steps := oneLine _ (by decide)
  hooks := by
    apply Sends.bind_ok (sends_expecting _ (oneLine _ (by decide)))
    intro channel listing later listed
    obtain ⟨_, classified⟩ := expecting_classified listed
    apply Instrument.sends_runAll
    intro entry member
    obtain ⟨name, target, inside⟩ := List.mem_flatMap.mp member
    have read : name ∈ Symbol.listed listing.output := (List.mem_filter.mp target).1
    have free := Symbol.oneLine_of_listed (Response.cr_not_mem_output classified) read
    exact oneLine _ (free.commands entry inside)

theorem sends_visible_of_oneLine : Sends allowed (Inspect.visible : Talk σ (List Inspect.Variable)) := by
  apply Sends.bind_ok (sends_expecting _ (oneLine _ (by decide)))
  intro channel names later listed
  obtain ⟨_, classified⟩ := expecting_classified listed
  apply Sends.bind (sends_expecting _ (oneLine _ (by decide)))
  intro functions
  apply Inspect.sends_variablesOf
  intro name read
  exact oneLine _ (Symbol.oneLine_of_listed (Response.cr_not_mem_output classified) read).quoted

end Commands

namespace ScriptFrame
variable [Interpreter σ] {allowed : String → Prop} (allows : AllowsSteps σ allowed)
include allows
open Act

theorem sends_descend : Sends allowed (descend : Act ScriptFrame σ Unit) :=
  .bind (sends_talk (CallFrame.sends_ofCall allows)) fun _ => sends_modifyChange _

theorem sends_finishStatement (response : Response) : Sends allowed (finishStatement response : Act ScriptFrame σ Unit) :=
  .bind (sends_talk (Talk.sends_emit _)) fun _ => sends_talk allows.hooks

theorem sends_runStatement {command : String} {ahead : List String} (first : allowed command)
    (more : ∀ line ∈ ahead, allowed line) : Sends allowed (runStatement command ahead : Act ScriptFrame σ Bool) :=
  runStatement_closed (Sends allowed) .bind (fun _ own => sends_talk (Talk.sends_expecting _ own)) (sends_modifyFrame _)
    sends_throw (sends_descend allows) (sends_finishStatement allows) sends_pure first more

theorem grows_advance (scene : Scene ScriptFrame σ) (lines : ∀ line ∈ scene.frame.script.ahead, allowed line) :
    scene.channel.Grows allowed ((advance : Act ScriptFrame σ Unit).runOver scene).2.channel := by
  change scene.channel.Grows allowed
    ((runFront scene.frame.script.skipIgnorable scene.frame.script.skipIgnorable.ahead).runOver scene).2.channel
  have kept : ∀ line ∈ scene.frame.script.skipIgnorable.ahead, allowed line := by
    rw [ahead_skipIgnorable]
    exact fun line inside => lines line (List.dropWhile_subset _ inside)
  cases front : scene.frame.script.skipIgnorable.ahead with
  | nil => exact .refl _
  | cons line rest =>
    rw [front] at kept
    let reading : Scene ScriptFrame σ :=
      { scene with frame := { scene.frame with script := scene.frame.script.skipIgnorable.advance } }
    obtain ⟨same, _⟩ := runOver_settling (runStatement line rest) reading
    have sent := sends_runStatement allows (kept line List.mem_cons_self)
      (fun other inside => kept other (List.mem_cons_of_mem _ inside)) reading
    change scene.channel.Grows allowed ((settling (runStatement line rest)).runOver reading).2.channel
    rw [same]
    exact sent

end ScriptFrame

/-- A command that is one line, or a line of the script. -/
def SentFrom (source command : String) : Prop :=
  OneLine command ∨ command ∈ Script.linesOf source

namespace Debuggee
variable [Interpreter σ] {source : String}

theorem advance_grows (debuggee : Debuggee σ) (valid : debuggee.stack.Valid source) :
    debuggee.channel.Grows (SentFrom source) debuggee.advance.2.channel := by
  have allows : AllowsSteps σ (SentFrom source) := allowsSteps_of_oneLine fun _ => .inl
  unfold advance
  split
  next =>
    cases calls : debuggee.stack.calls with
    | nil =>
      have read : ∀ line ∈ debuggee.stack.script.script.ahead, SentFrom source line := by
        rw [valid.reads.ahead]
        exact fun line inside => .inr (List.mem_of_mem_drop inside)
      change debuggee.channel.Grows (SentFrom source) debuggee.stepScript.2.channel
      rw [channel_stepScript]
      exact ScriptFrame.grows_advance allows ⟨debuggee.stack.script, .none, debuggee.channel⟩ read
    | cons top below =>
      change debuggee.channel.Grows (SentFrom source) (debuggee.stepCall top below).2.channel
      rw [channel_stepCall]
      exact CallFrame.sends_advance allows ⟨top, .none, debuggee.channel⟩
  next => exact .refl _

theorem operate_grows (debuggee : Debuggee σ) (operation : Operation) (valid : debuggee.stack.Valid source) :
    debuggee.channel.Grows (SentFrom source) (debuggee.operate operation).channel := by
  cases operation with
  | advance => exact debuggee.advance_grows valid
  | evaluate expression => exact Inspect.sends_evaluation (.inl (.evaluationCommand _)) debuggee.channel
  | condition expression => exact Inspect.sends_condition (.inl (.evaluationCommand _)) debuggee.channel
  | inspection => exact sends_visible_of_oneLine (fun _ => .inl) debuggee.channel

theorem after_sentFrom (source : String) (interpreter : σ) (operations : List Operation) :
    ∀ sending ∈ (after source interpreter operations).channel.sendings, SentFrom source sending.command := by
  have both : (after source interpreter operations).stack.Valid source ∧
      ∀ sending ∈ (after source interpreter operations).channel.sendings, SentFrom source sending.command := by
    refine after_induction (motive := fun debuggee => debuggee.stack.Valid source ∧
      ∀ sending ∈ debuggee.channel.sendings, SentFrom source sending.command) source interpreter ?_ ?_ operations
    · exact ⟨.ofSource source, nofun⟩
    · rintro debuggee operation ⟨valid, sent⟩
      refine ⟨operate_valid operation valid, fun sending member => ?_⟩
      obtain ⟨more, grown, own⟩ := debuggee.operate_grows operation valid
      rw [grown] at member
      exact (List.mem_append.mp member).elim (sent sending) (own sending)
  exact both.2

end Debuggee

/-- The first row of every response to the command is the command. -/
def Echoes (command : String) : Prop :=
  ∀ body : String, Text.rows (command ++ "\n" ++ body).toList = command.toList :: Text.rows body.toList

theorem rows_of_oneLine {command : String} (free : OneLine command) : Echoes command := by
  intro body
  have broken : Text.rows ('\n' :: body.toList) = [] :: Text.rows body.toList := by
    rw [Text.rows, if_pos (.inl rfl)]
    exact fun _ impossible => absurd impossible (by decide)
  simpa using Text.rows_append free broken

theorem echoes_iff {command : String} : Echoes command ↔ OneLine command := by
  refine ⟨fun echoes => ?_, rows_of_oneLine⟩
  have first : command.toList ∈ Text.rows (command ++ "\n" ++ "").toList := by
    rw [echoes ""]
    exact List.mem_cons_self
  exact (Text.cut_rows _).free _ first

/-- Below its echo a response shows what the interpreter said, up to the prompt. -/
theorem Echoes.text {command body : String} {response : Response} (echoes : Echoes command)
    (classified : Response.classify (command ++ "\n" ++ body) = some response) :
    response.text = String.ofList (Text.joinLines (Text.rows body.toList).dropLast) := by
  unfold Response.classify at classified
  split at classified <;> cases classified
  rw [echoes body]
  rfl

namespace Debuggee
variable [Interpreter σ]

/-- No command holds an LF, and one that holds a CR is a line of the script. All others, and they alone, are the first
row of whatever is answered to them, so the rows below it are the interpreter's. -/
theorem commands_one_line (source : String) (interpreter : σ) (operations : List Operation) :
    ∀ sending ∈ (after source interpreter operations).channel.sendings,
      '\n' ∉ sending.command.toList ∧
      ('\r' ∈ sending.command.toList → sending.command ∈ Script.linesOf source) ∧
      (Echoes sending.command ↔ '\r' ∉ sending.command.toList) ∧
      ('\r' ∉ sending.command.toList → ∀ body response,
        Response.classify (sending.command ++ "\n" ++ body) = some response →
          response.text = String.ofList (Text.joinLines (Text.rows body.toList).dropLast)) := by
  intro sending member
  have sent := after_sentFrom source interpreter operations sending member
  have lf : '\n' ∉ sending.command.toList := by
    rcases sent with free | line
    · exact free.1
    · obtain ⟨row, inside, same⟩ := List.mem_map.mp line
      rw [← same, String.toList_ofList]
      exact Text.lf_not_mem_lines inside
  have oneLine (cr : '\r' ∉ sending.command.toList) : OneLine sending.command := ⟨lf, cr⟩
  refine ⟨lf, fun cr => sent.resolve_left fun free => free.2 cr, ?_, ?_⟩
  · rw [echoes_iff]
    exact ⟨And.right, oneLine⟩
  · exact fun cr body response => (rows_of_oneLine (oneLine cr)).text

def wordless : Scripted where
  rules := [⟨"Filter(", .said "character(0)\nBrowse[1]> " ""⟩]
  replies := [.said "Browse[1]> " ""]
  ruledSteps := 0

/-- What is written on two lines is evaluated by a command on one. -/
theorem brokenExpression_echoed :
    ∃ sending ∈ (after "x" wordless [.evaluate "a\r\nb"]).channel.sendings,
      sending.command = "eval(parse(text = \"a\\r\\nb\"))" ∧ '\n' ∉ sending.command.toList ∧ Echoes sending.command := by
  have sent : (⟨"eval(parse(text = \"a\\r\\nb\"))", .said "Browse[1]> " "", 0⟩ : Sending) ∈
      (after "x" wordless [.evaluate "a\r\nb"]).channel.sendings := by decide +kernel
  obtain ⟨noLF, _, echoes, _⟩ := commands_one_line "x" wordless [.evaluate "a\r\nb"] _ sent
  exact ⟨_, sent, rfl, noLF, echoes.mpr (by decide)⟩

/-- A bare CR ends no line of a script, so what is written behind it comes back as output of the program. -/
theorem bareCR_echoed :
    let asked := (after "x\ry" wordless [.advance]).channel
    (∃ sending ∈ asked.sendings, sending.command = "x\ry" ∧ '\r' ∈ sending.command.toList ∧ ¬ Echoes sending.command) ∧
      asked.records = [⟨"y", false⟩] := by
  intro asked
  have sent : (⟨"x\ry", .said "Browse[1]> " "", 0⟩ : Sending) ∈ asked.sendings := by decide +kernel
  have broken : ¬ OneLine "x\ry" := by decide
  exact ⟨⟨_, sent, rfl, by decide, fun echoes => broken (echoes_iff.mp echoes)⟩, by decide +kernel⟩

end Debuggee
end RStepper
