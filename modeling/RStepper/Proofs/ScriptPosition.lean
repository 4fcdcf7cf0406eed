import Mathlib.Data.List.Induction
import RStepper.Proofs.FailedStep
import RStepper.Proofs.ScriptFeed

/-! The line that the script's frame reports. With no call in progress it is the first line that was not
consumed yet, and the next step sends that line. While calls are in progress it stays at the statement that
entered the outermost of them. -/

namespace RStepper
variable {σ : Type}

open Passage

namespace Feeds
variable {position : Nat} {command : String} {ahead left : List String} {more : List Sending}

theorem head (feeds : Feeds position command ahead more left) : more.head?.map Sending.command = some command := by
  cases feeds <;> rfl

theorem statement_lines (feeds : Feeds position command ahead more left) :
    ∃ behind, (Sending.statement more).map Sending.command = command :: behind ∧ behind <+: ahead := by
  induction feeds with
  | ends complete service => exact ⟨[], by simp [Sending.statement, complete], List.nil_prefix⟩
  | runsOut asks => exact ⟨[], by simp [Sending.statement], List.nil_prefix⟩
  | continues asks _ ih =>
    obtain ⟨behind, lines, inside⟩ := ih
    exact ⟨_ :: behind, by simp [Sending.statement, asks, lines], (List.prefix_cons_inj _).mpr inside⟩

end Feeds

namespace Debuggee
variable [Interpreter σ]

theorem after_concat (source : String) (interpreter : σ) (operations : List Operation) (operation : Operation) :
    after source interpreter (operations ++ [operation]) = (after source interpreter operations).operate operation := by
  simp [after, List.foldl_append]

/-- Behind a history the script's frame reports line `number`, counted from zero. That line begins a statement; the lines
before it, and only those, were sent or passed by; and a step sends it, with lines behind it that the interpreter asks for. -/
structure StandsAt (source : String) (interpreter : σ) (operations : List Operation) (number : Nat) (statement : String) : Prop where
  location : (after source interpreter operations).stack.script.location = .inScript (number + 1)
  line : (Script.linesOf source)[number]? = some statement
  isStatement : Script.isIgnorable statement = false
  consumed : ∃ passages, passages.map Passage.line = (Script.linesOf source).take number ∧ AllFair passages ∧
    passages.filterMap sending? = (start source interpreter).givenIn operations
  sends : ((after source interpreter operations).adds .advance).head?.map Sending.command = some statement
  given : ∃ behind, ((after source interpreter operations).given .advance).map Sending.command = statement :: behind ∧
    behind <+: (Script.linesOf source).drop (number + 1)

theorem advance_of_script {debuggee : Debuggee σ} (bottom : debuggee.stack.calls = [])
    (next : debuggee.stack.hasNext = true) :
    debuggee.advance = (debuggee.stepScript.1.map fun _ => true, debuggee.stepScript.2) := by
  simp [advance, next, bottom]

theorem advance_of_call {source : String} {debuggee : Debuggee σ} {top : CallFrame} {below : List CallFrame}
    (valid : debuggee.stack.Valid source) (calls : debuggee.stack.calls = top :: below) :
    debuggee.advance = ((debuggee.stepCall top below).1.map fun _ => true, (debuggee.stepCall top below).2) := by
  have next : debuggee.stack.hasNext = true := by simpa only [Stack.hasNext, calls] using valid.top_active calls
  simp [advance, next, calls]

/-- With no call in progress and something left to run, the script stands at the statement it sends next. -/
theorem standsAt_of_bottom {source : String} {interpreter : σ} {operations : List Operation}
    (bottom : (after source interpreter operations).stack.calls = [])
    (next : (after source interpreter operations).stack.hasNext = true) :
    ∃ number statement, StandsAt source interpreter operations number statement := by
  have valid := after_valid source interpreter operations
  obtain ⟨passages, course, fed, _⟩ := after_fed source interpreter operations
  generalize reached : after source interpreter operations = debuggee at bottom next valid course
  have settled := valid.settled bottom
  obtain ⟨line, stands⟩ : ∃ line, debuggee.stack.script.line = some line := by
    simpa [Stack.hasNext, bottom, ScriptFrame.isActive, Option.isSome_iff_exists] using next
  have there := settled.stands valid.reads
  rw [ScriptFrame.Stands, stands] at there
  obtain ⟨rfl, statement, found, isStatement⟩ := there
  let passed := debuggee.stack.script.script.passed
  have ahead : debuggee.stack.script.script.ahead = statement :: (Script.linesOf source).drop (passed + 1) := by
    obtain ⟨inside, rfl⟩ := List.getElem?_eq_some_iff.mp found
    rw [valid.reads.ahead, List.drop_eq_getElem_cons inside]
  obtain ⟨more, left, sent, feeds⟩ := ScriptFrame.advance_feeds settled.skipIgnorable ahead .none debuggee.channel
  have adds : debuggee.adds .advance = more := by
    apply adds_of_sendings
    change debuggee.advance.2.channel.sendings = _
    rw [advance_of_script bottom next, channel_stepScript, sent]
  have given : debuggee.given .advance = Sending.statement more := by simp [Debuggee.given, bottom, adds]
  refine ⟨passed, statement, ?_, found, isStatement, ⟨passages, ?_, course.fair, fed⟩, ?_, ?_⟩
  · simp [reached, ScriptFrame.location, stands, passed]
  · have lines := course.lines
    rw [valid.reads.ahead] at lines
    exact List.append_cancel_right (lines.trans (List.take_append_drop ..).symm)
  · rw [reached, adds, feeds.head]
  · rw [reached, given]
    exact feeds.statement_lines

/-- While calls are in progress and stay, nothing moves the script. -/
theorem script_kept {source : String} {debuggee : Debuggee σ} {operation : Operation} (valid : debuggee.stack.Valid source)
    (calling : debuggee.stack.calls ≠ []) (still : (debuggee.operate operation).stack.calls ≠ []) :
    (debuggee.operate operation).stack.script = debuggee.stack.script := by
  cases operation with
  | evaluate | condition | inspection => rfl
  | advance =>
    obtain ⟨top, below, calls⟩ := List.exists_cons_of_ne_nil calling
    have active := valid.top_active calls
    have returned (count : Nat) (value : String) (line : Option Int)
        (left : (debuggee.stack.returned count value line).calls ≠ []) :
        (debuggee.stack.returned count value line).script = debuggee.stack.script := by
      unfold Stack.returned at left ⊢
      split at left
      · exact absurd rfl left
      · rfl
    have unchanged : { debuggee.stack with calls := top :: below } = debuggee.stack := by rw [← calls]
    simp only [operate, advance_of_call valid calls] at still ⊢
    rcases stepped : debuggee.stepCall top below with ⟨failure | _, later⟩ <;> rw [stepped] at still
    · obtain ⟨scene, _, rfl⟩ := stepCall_error stepped
      rfl
    · obtain ⟨response, asked, scene, _, steps, rfl⟩ := stepCall_ok active stepped
      cases steps with
      | stays _ same =>
        have moved := (same.sound (valid.calls top (by simp [calls]))).isActive
        simp only [same.change, StackChange.none, Stack.changed_active _ moved]
      | enters => simp only [Stack.changed_active _ active]
      | returns =>
        simp only [Stack.changed_returning, unchanged] at still ⊢
        exact returned _ _ _ still
      | finishes =>
        simp only [StackChange.none, Stack.changed_returning, unchanged] at still ⊢
        exact returned _ _ _ still

/-- From no call to one leads only a step of the script, which stays at its statement. -/
theorem script_enters {debuggee : Debuggee σ} {operation : Operation} (bottom : debuggee.stack.calls = [])
    (calling : (debuggee.operate operation).stack.calls ≠ []) :
    operation = .advance ∧ debuggee.stack.hasNext = true ∧ (∃ later callee, debuggee.advance = (.ok true, later) ∧
      later.stack.calls = [callee] ∧ later.stack.script.location = debuggee.stack.script.location) := by
  cases operation with
  | evaluate | condition | inspection => exact absurd bottom calling
  | advance =>
    rcases advanced : debuggee.advance with ⟨outcome, later⟩
    simp only [operate, advanced] at calling
    cases advance_cases advanced with
    | rests _ same => exact absurd (same ▸ bottom) calling
    | call calls | callFails calls => simp [bottom] at calls
    | scriptFails _ _ stepped =>
      obtain ⟨scene, _, rfl⟩ := stepScript_error stepped
      exact absurd bottom calling
    | script _ active stepped =>
      refine ⟨rfl, by simpa only [Stack.hasNext, bottom] using active, ?_⟩
      obtain ⟨scene, ran, rfl⟩ := stepScript_went stepped
      dsimp only at calling
      rw [bottom] at calling
      cases ScriptFrame.advance_steps ran with
      | enters sound change line =>
        refine ⟨_, _, rfl, by simp only [bottom, change, Stack.changed_script]; rfl, ?_⟩
        simp only [bottom, change, Stack.changed_script, ScriptFrame.location, line]
      | settles _ change =>
        rw [change, StackChange.none, Stack.changed_script] at calling
        exact absurd rfl calling

/-- The last step of the script in a history: it entered a call, and since then there were calls in progress. -/
structure Calling (source : String) (interpreter : σ) (earlier later : List Operation) : Prop where
  bottom : (after source interpreter earlier).stack.calls = []
  enters : ∃ entered callee, (after source interpreter earlier).advance = (.ok true, entered) ∧ entered.stack.calls = [callee]
  since : ∀ middle, middle <+: later → (after source interpreter (earlier ++ .advance :: middle)).stack.calls ≠ []
  location : (after source interpreter (earlier ++ .advance :: later)).stack.script.location =
    (after source interpreter earlier).stack.script.location

theorem calling_of_calls {source : String} {interpreter : σ} {operations : List Operation}
    (calling : (after source interpreter operations).stack.calls ≠ []) :
    ∃ earlier later, operations = earlier ++ .advance :: later ∧
      (after source interpreter earlier).stack.hasNext = true ∧ Calling source interpreter earlier later := by
  induction operations using List.reverseRecOn with
  | nil => exact absurd rfl calling
  | append_singleton before operation ih =>
    have valid := after_valid source interpreter before
    rw [after_concat] at calling
    by_cases bottom : (after source interpreter before).stack.calls = []
    · obtain ⟨rfl, next, entered, callee, advanced, calls, location⟩ := script_enters bottom calling
      refine ⟨before, [], rfl, next, bottom, ⟨entered, callee, advanced, calls⟩, ?_, ?_⟩
      · intro middle none
        rw [List.prefix_nil.mp none, after_concat]
        exact calling
      · rw [after_concat, operate, advanced]
        exact location
    · obtain ⟨earlier, later, rfl, next, since⟩ := ih bottom
      have longer (more : List Operation) : earlier ++ .advance :: later ++ more = earlier ++ .advance :: (later ++ more) := by simp
      refine ⟨earlier, later ++ [operation], longer _, next, since.bottom, since.enters, ?_, ?_⟩
      · intro middle inside
        rcases List.prefix_concat_iff.mp inside with rfl | inside
        · rw [← longer, after_concat]
          exact calling
        · exact since.since middle inside
      · rw [← longer, after_concat, ScriptFrame.location, script_kept valid bottom calling]
        exact since.location

/-- Whatever the interpreter answered and whatever failed, the line that the script's frame reports is the line of the
statement being run. With no call in progress it is the first line that was not consumed, and the next step sends it
first. With calls in progress it is the first line of the statement that entered the outermost of them. -/
theorem script_line_eq (source : String) (interpreter : σ) (operations : List Operation) :
    let stack := (after source interpreter operations).stack
    (stack.depth = 1 → stack.hasNext = true → ∃ number statement, StandsAt source interpreter operations number statement) ∧
    (stack.depth ≠ 1 → ∃ earlier later number statement, operations = earlier ++ .advance :: later ∧
      StandsAt source interpreter earlier number statement ∧ Calling source interpreter earlier later ∧
      stack.script.location = .inScript (number + 1)) := by
  intro stack
  constructor
  · intro single next
    exact standsAt_of_bottom (by simpa [Stack.depth] using single) next
  · intro deeper
    have calling : stack.calls ≠ [] := by simpa [Stack.depth] using deeper
    obtain ⟨earlier, later, rfl, next, since⟩ := calling_of_calls calling
    obtain ⟨number, statement, stands⟩ := standsAt_of_bottom since.bottom next
    exact ⟨earlier, later, number, statement, rfl, stands, since, since.location.trans stands.location⟩

end Debuggee
end RStepper
