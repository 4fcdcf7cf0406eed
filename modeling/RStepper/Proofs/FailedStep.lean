import RStepper.Interpreter.Scripted
import RStepper.Proofs.Exchanges
import RStepper.Proofs.StackInvariant

/-! What a step that fails leaves of the stack. Whatever it had found out before it failed, nothing is
pushed and nothing goes: a call at the top is still paused, and a script there has passed its statement. -/

namespace RStepper
variable {σ : Type}

/-- Standing at a line that begins a statement, or behind the last line. -/
def ScriptFrame.Stands (source : String) (frame : ScriptFrame) : Prop :=
  match frame.line with
  | some number => number = frame.script.passed + 1 ∧
    ∃ statement, (Script.linesOf source)[frame.script.passed]? = some statement ∧ Script.isIgnorable statement = false
  | none => frame.script.passed = (Script.linesOf source).length

theorem ScriptFrame.Settled.stands {source : String} {frame : ScriptFrame} (settled : frame.Settled)
    (reads : frame.script.Reads source) : frame.Stands source := by
  unfold Stands
  cases front : frame.script.ahead with
  | nil =>
    have length := congrArg List.length (reads.ahead.symm.trans front)
    simp only [List.length_drop, List.length_nil] at length
    rw [settled.line, Script.next, front]
    exact Nat.le_antisymm reads.passed (by omega)
  | cons statement rest =>
    have first : (Script.linesOf source)[frame.script.passed]? = some statement := by
      rw [← List.head?_drop, ← reads.ahead, front, List.head?_cons]
    rw [settled.line, Script.next, front]
    exact ⟨rfl, statement, first, settled.isIgnorable_head front⟩

theorem ScriptFrame.Stands.passed_lt {source : String} {frame : ScriptFrame} (stands : frame.Stands source)
    (active : frame.isActive = true) : frame.script.passed < (Script.linesOf source).length := by
  obtain ⟨number, line⟩ := Option.isSome_iff_exists.mp active
  rw [Stands, line] at stands
  obtain ⟨_, statement, found, _⟩ := stands
  exact (List.getElem?_eq_some_iff.mp found).1

theorem ScriptFrame.Stands.passed_eq {source : String} {frame : ScriptFrame} (stands : frame.Stands source)
    (ended : frame.isActive = false) : frame.script.passed = (Script.linesOf source).length := by
  have line : frame.line = none := by simpa [isActive] using ended
  rwa [Stands, line] at stands

theorem Script.Reads.linesLeft {source : String} {frame : ScriptFrame} (reads : frame.script.Reads source) :
    frame.script.passed + frame.linesLeft = (Script.linesOf source).length := by
  have passed := reads.passed
  rw [ScriptFrame.linesLeft, reads.ahead, List.length_drop]
  omega

/-- The frames below the innermost one are as they were, and that one is the same frame still: a paused
call with its body and without a value, or the script at a later line. -/
structure Stack.Withstands (source : String) (before after : Stack) : Prop where
  depth : after.depth = before.depth
  below : after.frames.tail = before.frames.tail
  lastResult : after.lastResult = before.lastResult
  call : ∀ call, before.frames.head? = some (.call call) → ∃ kept : CallFrame,
    after.frames.head? = some (.call kept) ∧ kept.isActive = true ∧ kept.shape = call.shape ∧ kept.takeResult.1 = none
  script : ∀ script, before.frames.head? = some (.script script) → ∃ moved : ScriptFrame,
    after.frames.head? = some (.script moved) ∧ script.script.passed < moved.script.passed ∧ moved.Stands source

namespace Debuggee
variable [Interpreter σ] {source : String}

theorem stepCall_withstands {debuggee later : Debuggee σ} {top : CallFrame} {below : List CallFrame} {failure : Failure}
    (valid : debuggee.stack.Valid source) (calls : debuggee.stack.calls = top :: below)
    (stepped : debuggee.stepCall top below = (.error failure, later)) :
    debuggee.stack.Withstands source later.stack := by
  obtain ⟨scene, ran, rfl⟩ := stepCall_error stepped
  have sound : top.Sound := valid.calls top (by simp [calls])
  obtain ⟨shape, keeps⟩ := CallFrame.advance_fails sound.isActive ran
  obtain ⟨line, paused, _⟩ := keeps sound
  refine ⟨by simp [Stack.depth, calls], by simp [Stack.frames, calls], rfl, ?_, ?_⟩
  · intro call head
    simp only [Stack.frames, calls, List.map_cons, List.cons_append, List.head?_cons, Option.some.injEq,
      Frame.call.injEq] at head
    subst head
    exact ⟨scene.frame, rfl, (keeps sound).isActive, shape, by simp [CallFrame.takeResult, paused]⟩
  · intro script head
    simp [Stack.frames, calls] at head

theorem stepCall_in_place {debuggee later : Debuggee σ} {top : CallFrame} {below : List CallFrame} {failure : Failure}
    (calls : debuggee.stack.calls = top :: below) (active : top.isActive = true)
    (stepped : debuggee.stepCall top below = (.error failure, later)) {response : Response} {asked : Channel σ}
    (replied : (Talk.execute stepCommand).runOver debuggee.channel = (.ok response, asked))
    (kind : response.kind ∈ [Kind.entering, .returned, .returnedMany]) : later.stack = debuggee.stack := by
  obtain ⟨scene, ran, rfl⟩ := stepCall_error stepped
  rw [CallFrame.runOver_advance active, replied] at ran
  rw [CallFrame.follow_fails_in_place kind ran, ← calls]

theorem stepScript_withstands {debuggee later : Debuggee σ} {failure : Failure} (valid : debuggee.stack.Valid source)
    (bottom : debuggee.stack.calls = []) (active : debuggee.stack.script.isActive = true)
    (stepped : debuggee.stepScript = (.error failure, later)) : debuggee.stack.Withstands source later.stack := by
  obtain ⟨scene, ran, rfl⟩ := stepScript_error stepped
  have reads : scene.frame.script.Reads source := (ScriptFrame.reading_advance source).of_run ran valid.reads
  have fewer := ScriptFrame.linesLeft_advance (⟨debuggee.stack.script, .none, debuggee.channel⟩ : Scene ScriptFrame σ)
  rw [ran] at fewer
  have stands := (ScriptFrame.advance_fails ran).stands reads
  have further : debuggee.stack.script.script.passed < scene.frame.script.passed := by
    rcases fewer with fewer | ⟨ended, _⟩
    · have before := valid.reads.linesLeft
      have after := reads.linesLeft
      dsimp only at fewer
      omega
    · rw [stands.passed_eq ended]
      exact ((valid.settled bottom).stands valid.reads).passed_lt active
  refine ⟨rfl, by simp [Stack.frames, bottom], rfl, ?_, ?_⟩
  · intro call head
    simp [Stack.frames, bottom] at head
  · intro script head
    simp only [Stack.frames, bottom, List.map_nil, List.nil_append, List.head?_cons, Option.some.injEq,
      Frame.script.injEq] at head
    subst head
    exact ⟨scene.frame, by simp [Stack.frames, bottom], further, stands⟩

/-- A step that fails does not reshape the stack, whatever the interpreter answered and to which command.
What the step had found before, a callee or returns with the line behind them, is forgotten. -/
theorem failed_advance_withstands {interpreter : σ} {operations : List Operation} {failure : Failure} {later : Debuggee σ}
    (failed : (after source interpreter operations).advance = (.error failure, later)) :
    let before := after source interpreter operations
    before.stack.Withstands source later.stack ∧
      ∀ response asked, before.stack.calls ≠ [] →
        (Talk.execute stepCommand).runOver before.channel = (.ok response, asked) →
          response.kind ∈ [Kind.entering, .returned, .returnedMany] → later.stack = before.stack := by
  intro before
  have valid : before.stack.Valid source := after_valid source interpreter operations
  change before.advance = _ at failed
  unfold advance at failed
  split at failed
  next next =>
    cases calls : before.stack.calls with
    | nil =>
      rw [calls] at failed
      dsimp only at failed
      rcases stepped : before.stepScript with ⟨_ | _, _⟩ <;> rw [stepped] at failed <;> cases failed
      have active : before.stack.script.isActive = true := by simpa only [Stack.hasNext, calls] using next
      exact ⟨stepScript_withstands valid calls active stepped, fun _ _ calling => absurd rfl calling⟩
    | cons top below =>
      rw [calls] at failed
      dsimp only at failed
      rcases stepped : before.stepCall top below with ⟨_ | _, _⟩ <;> rw [stepped] at failed <;> cases failed
      exact ⟨stepCall_withstands valid calls stepped, fun _ _ _ replied kind =>
        stepCall_in_place calls (valid.top_active calls) stepped replied kind⟩
  next => cases failed

/-- Two calls return at once into a loop of their caller, and the step past the loop's head is not answered. -/
def lostReturn : Scripted where
  rules := [⟨"Filter(", .said "character(0)\nBrowse[1]> " ""⟩]
  replies := [
    .said "debugging in: f()\nBrowse[2]> " "",
    .said "Tracing f() on entry\n[1] \"f\"\nBrowse[2]> " "",
    .said "debug at #2: g()\nBrowse[2]> " "",
    .said "debugging in: g()\nBrowse[3]> " "",
    .said "Tracing g() on entry\n1\ndebug: h()\nBrowse[3]> " "",
    .said "debugging in: h()\nBrowse[4]> " "",
    .said "Tracing h() on entry\n1\ndebug: 7\nBrowse[4]> " "",
    .said "Tracing h() on exit\n1\nexiting from: h()\nTracing g() on exit\n1\nexiting from: g()\ndebug at #3: for (i in 1:2) \x7b\nBrowse[2]> " ""]
  ruledSteps := 0

theorem lostReturn_withstands :
    let before := after "f()" lostReturn [.advance, .advance, .advance]
    before.stack.calls = [⟨.expression, "h", .paused 1⟩, ⟨.expression, "g", .paused 1⟩, ⟨.block, "f", .paused 2⟩] ∧
      ((Talk.execute stepCommand).runOver before.channel).1.toOption.map Response.kind = some .returnedMany ∧
      before.advance = (.error (.channel stepCommand), before.advance.2) ∧
      before.stack.Withstands "f()" before.advance.2.stack ∧
      ∀ response asked, before.stack.calls ≠ [] →
        (Talk.execute stepCommand).runOver before.channel = (.ok response, asked) →
          response.kind ∈ [Kind.entering, .returned, .returnedMany] → before.advance.2.stack = before.stack := by
  intro before
  obtain ⟨calls, kind, failed⟩ : before.stack.calls =
        [⟨.expression, "h", .paused 1⟩, ⟨.expression, "g", .paused 1⟩, ⟨.block, "f", .paused 2⟩] ∧
      ((Talk.execute stepCommand).runOver before.channel).1.toOption.map Response.kind = some .returnedMany ∧
      failure? before.advance.1 = some (.channel stepCommand) := by decide +kernel
  have went := eq_error_of_failure? failed
  exact ⟨calls, kind, went, failed_advance_withstands went⟩

end Debuggee
end RStepper
