import RStepper.Proofs.DebuggeeHistory
import RStepper.Proofs.ScriptStep

/-! The shape of the stack in every state that a debuggee can reach, whatever its interpreter answers:
the script at the bottom and paused calls above it. -/

namespace RStepper
variable {σ : Type}

inductive Frame where
  | script (frame : ScriptFrame)
  | call (frame : CallFrame)

namespace Frame

def isActive : Frame → Bool
  | .script frame => frame.isActive
  | .call frame => frame.isActive

def location : Frame → Location
  | .script frame => frame.location
  | .call frame => frame.location

theorem location_noLine_script (frame : ScriptFrame) :
    (script frame).location.line = -1 ↔ (script frame).isActive = false := by
  cases line : frame.line <;>
    simp [location, isActive, ScriptFrame.location, ScriptFrame.isActive, Location.inScript, Location.noLine, line]

theorem location_noLine_call {frame : CallFrame} (sound : frame.Sound) :
    (call frame).location.line = -1 ↔ (call frame).isActive = false := by
  obtain ⟨line, paused, inRange, _⟩ := sound
  simp only [location, isActive, CallFrame.location, CallFrame.isActive, paused]
  constructor
  · omega
  · intro ended
    cases ended

end Frame

namespace Stack

def frames (stack : Stack) : List Frame :=
  stack.calls.map .call ++ [.script stack.script]

theorem depth_eq (stack : Stack) : stack.depth = stack.frames.length := by
  simp [depth, frames]

theorem hasNext_eq (stack : Stack) : stack.hasNext = stack.frames.head?.any Frame.isActive := by
  cases calls : stack.calls <;> simp [hasNext, frames, calls, Frame.isActive]

theorem locations_eq (stack : Stack) : stack.locations = stack.frames.map Frame.location := by
  simp [locations, frames, Function.comp_def, Frame.location]

/-- The script stands at a statement of its own, or at the one whose calls are in progress. -/
structure Valid (source : String) (stack : Stack) : Prop where
  calls : ∀ call ∈ stack.calls, call.Sound
  settled : stack.calls = [] → stack.script.Settled
  calling : stack.calls ≠ [] → stack.script.isActive = true
  reads : stack.script.script.Reads source

theorem Valid.ofSource (source : String) : (ofSource source).Valid source where
  calls := by simp [Stack.ofSource]
  settled _ := ScriptFrame.settled_settled _
  calling := by simp [Stack.ofSource]
  reads := (Script.Reads.ofSource source).skip _

theorem Valid.top_active {source : String} {stack : Stack} {top : CallFrame} {below : List CallFrame}
    (valid : stack.Valid source) (calls : stack.calls = top :: below) : top.isActive = true :=
  (valid.calls top (by simp [calls])).isActive

/-- The stack behind the return of its innermost calls, `count` in number. What comes up is a caller,
which goes on at the announced line, or the script, which goes on to its next statement. -/
def returned (stack : Stack) (count : Nat) (value : String) (line : Option Int) : Stack :=
  match stack.calls.drop count with
  | [] => ⟨stack.script.settled, [], some value⟩
  | caller :: rest => ⟨stack.script, caller.atLine? line :: rest, some value⟩

theorem depth_returned (stack : Stack) (count : Nat) (value : String) (line : Option Int) :
    (stack.returned count value line).depth = max 1 (stack.depth - count) := by
  have length : (stack.calls.drop count).length = stack.calls.length - count := List.length_drop
  unfold returned depth
  split
  next ended =>
    rw [ended] at length
    simp only [List.length_nil] at length ⊢
    omega
  next caller rest left =>
    rw [left] at length
    simp only [List.length_cons] at length ⊢
    omega

theorem changed_active (stack : Stack) {top : CallFrame} (active : top.isActive = true) (below entered : List CallFrame) :
    ({ stack with calls := top :: below } : Stack).changed ⟨entered, 0, none⟩ =
      { stack with calls := entered.reverse ++ top :: below } := by
  simp [changed, unwound, resumedAt, active]

theorem changed_script (script : ScriptFrame) (entered : List CallFrame) (lastResult : Option String) :
    (⟨script, [], lastResult⟩ : Stack).changed ⟨entered, 0, none⟩ = ⟨script, entered.reverse, lastResult⟩ := by
  simp [changed, unwound, resumedAt]

theorem changed_returning (stack : Stack) (top : CallFrame) (below : List CallFrame) (value : String)
    (dropped : Nat) (line : Option Int) :
    ({ stack with calls := top.returning value :: below } : Stack).changed ⟨[], dropped, line⟩ =
      ({ stack with calls := top :: below } : Stack).returned (dropped + 1) value line := by
  unfold returned
  cases left : below.drop dropped with
  | nil => simp [changed, unwound, resumedAt, CallFrame.returning, CallFrame.isActive, CallFrame.takeResult, left]
  | cons caller rest =>
    cases line <;> simp [changed, unwound, resumedAt, CallFrame.returning, CallFrame.isActive, CallFrame.takeResult,
      CallFrame.atLine?, CallFrame.setReturnLine, left]

variable {source : String}

theorem Valid.returned {stack : Stack} {line : Option Int} (valid : stack.Valid source) (count : Nat) (value : String)
    (inRange : ∀ number, line = some number → 0 ≤ number) (calling : stack.calls ≠ []) :
    (stack.returned count value line).Valid source := by
  unfold Stack.returned
  split
  next ended =>
    exact ⟨by simp, fun _ => ScriptFrame.settled_settled _, by simp, valid.reads.skip _⟩
  next caller rest left =>
    have below (call : CallFrame) (member : call ∈ caller :: rest) : call ∈ stack.calls :=
      List.mem_of_mem_drop (left ▸ member)
    refine ⟨?_, by simp, fun _ => valid.calling calling, valid.reads⟩
    intro call member
    rcases List.mem_cons.mp member with rfl | member
    · exact (valid.calls caller (below caller (by simp))).atLine? inRange
    · exact valid.calls call (below call (by simp [member]))

theorem Valid.push {stack : Stack} {callee : CallFrame} (valid : stack.Valid source) (sound : callee.Sound)
    (calling : stack.script.isActive = true) : ({ stack with calls := callee :: stack.calls } : Stack).Valid source := by
  refine ⟨?_, by simp, fun _ => calling, valid.reads⟩
  intro call member
  rcases List.mem_cons.mp member with rfl | member
  · exact sound
  · exact valid.calls call member

theorem Valid.replaceTop {stack : Stack} {top frame : CallFrame} {below : List CallFrame} (valid : stack.Valid source)
    (calls : stack.calls = top :: below) (sound : frame.Sound) :
    ({ stack with calls := frame :: below } : Stack).Valid source := by
  refine ⟨?_, by simp, fun _ => valid.calling (by simp [calls]), valid.reads⟩
  intro call member
  rcases List.mem_cons.mp member with rfl | member
  · exact sound
  · exact valid.calls call (by simp [calls, member])

end Stack

namespace Debuggee
variable [Interpreter σ]

theorem stepCall_ok {debuggee later : Debuggee σ} {top : CallFrame} {below : List CallFrame}
    (active : top.isActive = true) (stepped : debuggee.stepCall top below = (.ok (), later)) :
    ∃ response asked scene, (Talk.execute stepCommand).runOver debuggee.channel = (.ok response, asked) ∧
      CallFrame.Steps top response asked scene ∧
      later = ⟨({ debuggee.stack with calls := scene.frame :: below } : Stack).changed scene.change, scene.channel⟩ := by
  obtain ⟨scene, ran, rfl⟩ := stepCall_went stepped
  obtain ⟨response, asked, replied, steps⟩ := CallFrame.advance_steps active ran
  exact ⟨response, asked, scene, replied, steps, rfl⟩

theorem stepCall_valid {source : String} {debuggee : Debuggee σ} {top : CallFrame} {below : List CallFrame}
    (calls : debuggee.stack.calls = top :: below) (valid : debuggee.stack.Valid source) :
    (debuggee.stepCall top below).2.stack.Valid source := by
  have sound : top.Sound := valid.calls top (by simp [calls])
  rcases stepped : debuggee.stepCall top below with ⟨failure | _, later⟩
  · obtain ⟨scene, ran, rfl⟩ := stepCall_error stepped
    exact valid.replaceTop calls ((CallFrame.advance_fails sound.isActive ran).2 sound)
  · obtain ⟨response, asked, scene, _, steps, rfl⟩ := stepCall_ok sound.isActive stepped
    have replaced := valid.replaceTop calls sound
    cases steps with
    | stays _ same =>
      have moved := same.sound sound
      dsimp only
      rw [same.change, StackChange.none, Stack.changed_active _ moved.isActive]
      exact valid.replaceTop calls moved
    | enters _ fresh =>
      dsimp only
      rw [Stack.changed_active _ sound.isActive]
      exact replaced.push fresh (valid.calling (by simp [calls]))
    | returns _ announced =>
      dsimp only
      rw [Stack.changed_returning]
      exact replaced.returned _ _ (CallFrame.returnLine_nonneg announced) (by simp)
    | finishes =>
      dsimp only
      rw [StackChange.none, Stack.changed_returning]
      exact replaced.returned _ _ nofun (by simp)

theorem stepScript_valid {source : String} {debuggee : Debuggee σ} (bottom : debuggee.stack.calls = [])
    (active : debuggee.stack.script.isActive = true) (valid : debuggee.stack.Valid source) :
    debuggee.stepScript.2.stack.Valid source := by
  have reads (scene : Scene ScriptFrame σ) (outcome : Except Failure Unit)
      (ran : ScriptFrame.advance.runOver ⟨debuggee.stack.script, .none, debuggee.channel⟩ = (outcome, scene)) :
      scene.frame.script.Reads source :=
    (ScriptFrame.reading_advance source).of_run ran valid.reads
  have halted (frame : ScriptFrame) (settled : frame.Settled) (reads : frame.script.Reads source) :
      ({ debuggee.stack with script := frame } : Stack).Valid source :=
    ⟨valid.calls, fun _ => settled, fun calling => absurd bottom calling, reads⟩
  rcases stepped : debuggee.stepScript with ⟨failure | _, later⟩
  · obtain ⟨scene, ran, rfl⟩ := stepScript_error stepped
    exact halted _ (ScriptFrame.advance_fails ran) (reads _ _ ran)
  · obtain ⟨scene, ran, rfl⟩ := stepScript_went stepped
    dsimp only
    rw [bottom]
    cases ScriptFrame.advance_steps ran with
    | enters sound change line =>
      rw [change, Stack.changed_script]
      refine ⟨by simpa using sound, by simp, fun _ => ?_, reads _ _ ran⟩
      simpa only [ScriptFrame.isActive, line] using active
    | settles settled change =>
      rw [change, StackChange.none, Stack.changed_script]
      exact ⟨by simp, fun _ => settled, by simp, reads _ _ ran⟩

theorem advance_valid {source : String} {debuggee : Debuggee σ} (valid : debuggee.stack.Valid source) :
    debuggee.advance.2.stack.Valid source := by
  rcases advanced : debuggee.advance with ⟨outcome, later⟩
  cases advance_cases advanced with
  | rests _ same => exact same ▸ valid
  | script bottom active stepped | scriptFails bottom active stepped =>
    simpa only [stepped] using stepScript_valid bottom active valid
  | call calls _ stepped | callFails calls _ stepped => simpa only [stepped] using stepCall_valid calls valid

/-- Every operation keeps the stack valid, one that fails half way included. -/
theorem operate_valid {source : String} {debuggee : Debuggee σ} (operation : Operation)
    (valid : debuggee.stack.Valid source) : (debuggee.operate operation).stack.Valid source := by
  cases operation with
  | advance => exact advance_valid valid
  | evaluate | condition | inspection => exact valid

theorem after_valid (source : String) (interpreter : σ) (operations : List Operation) :
    (after source interpreter operations).stack.Valid source :=
  after_induction (motive := fun debuggee => debuggee.stack.Valid source) source interpreter
    (Stack.Valid.ofSource source) (fun _ operation => operate_valid operation) operations

/-- Whatever the interpreter answers and whatever failed before, the script is the bottom frame and
no other, every frame above it is a call paused at a line that its body has, and nothing is left to
run exactly when the script is alone with no statement among its unread lines. -/
theorem frames_shape (source : String) (interpreter : σ) (operations : List Operation) :
    let stack := (after source interpreter operations).stack
    stack.frames ≠ [] ∧
    (∃ script, stack.frames.getLast? = some (.script script) ∧ script.location.function = "<main>") ∧
    (∀ frame ∈ stack.frames.dropLast, ∃ call line, frame = .call call ∧ call.isActive = true ∧
      call.location.line = line ∧ 0 ≤ line ∧ (call.shape = .expression → line = 1)) ∧
    (∀ frame ∈ stack.frames, frame.location.line = -1 ↔ frame.isActive = false) ∧
    (stack.hasNext = false ↔ stack.depth = 1 ∧
      ∀ line ∈ (Script.linesOf source).drop stack.script.script.passed, Script.isIgnorable line = true) := by
  intro stack
  have valid : stack.Valid source := after_valid source interpreter operations
  refine ⟨by simp [Stack.frames], ⟨stack.script, by simp [Stack.frames], rfl⟩, ?_, ?_, ?_⟩
  · intro frame member
    simp only [Stack.frames, List.dropLast_concat, List.mem_map] at member
    obtain ⟨call, inside, rfl⟩ := member
    obtain ⟨line, paused, inRange, single⟩ := valid.calls call inside
    exact ⟨call, line, rfl, by simp [CallFrame.isActive, paused], by simp [CallFrame.location, paused], inRange, single⟩
  · intro frame member
    rcases List.mem_append.mp member with member | member
    · obtain ⟨call, inside, rfl⟩ := List.mem_map.mp member
      exact Frame.location_noLine_call (valid.calls call inside)
    · obtain rfl := List.mem_singleton.mp member
      exact Frame.location_noLine_script stack.script
  · cases calls : stack.calls with
    | nil =>
      have ended := (valid.settled calls).isActive_eq_false
      rw [valid.reads.ahead] at ended
      simpa [Stack.hasNext, Stack.depth, calls] using ended
    | cons top below => simp [Stack.hasNext, Stack.depth, calls, valid.top_active calls]

end Debuggee
end RStepper
