import RStepper.Frame.Script

/-!
The stack of frames: the script at the bottom, the calls in progress above it. A step belongs to the
innermost frame; what it asks of the stack is done when it succeeds and only then.
-/

namespace RStepper

/-- The script, the calls in progress (innermost first), and the value of the call that returned
last. -/
structure Stack where
  script : ScriptFrame
  calls : List CallFrame
  lastResult : Option String
  deriving DecidableEq, Repr, Inhabited

namespace Stack

def ofSource (source : String) : Stack :=
  ⟨.ofSource source, [], none⟩

def depth (stack : Stack) : Nat :=
  stack.calls.length + 1

def hasNext (stack : Stack) : Bool :=
  match stack.calls with
  | [] => stack.script.isActive
  | top :: _ => top.isActive

def location (stack : Stack) : Location :=
  match stack.calls with
  | [] => stack.script.location
  | top :: _ => top.location

def locations (stack : Stack) : List Location :=
  stack.calls.map CallFrame.location ++ [stack.script.location]

/-- Takes a call that returned off the stack, together with the frames that returned below it; the
script, if it comes up, goes on to its next statement. -/
def unwound (stack : Stack) (dropped : Nat) : Stack :=
  match stack.calls with
  | [] => stack
  | top :: below =>
    if top.isActive then stack
    else
      let calls := below.drop dropped
      ⟨if calls.isEmpty then stack.script.settled else stack.script, calls, top.takeResult.1⟩

/-- Moves the innermost call to the line it goes on at. -/
def resumedAt (stack : Stack) (line : Option Int) : Stack :=
  match stack.calls with
  | [] => stack
  | top :: below => { stack with calls := line.elim top top.setReturnLine :: below }

def changed (stack : Stack) (change : StackChange) : Stack :=
  let resumed := (stack.unwound change.dropped).resumedAt change.returnLine
  { resumed with calls := change.entered.reverse ++ resumed.calls }

end Stack

/-- A program being debugged: its frames and its interpreter. -/
structure Debuggee (σ : Type) where
  stack : Stack
  channel : Channel σ

namespace Debuggee
variable {σ α : Type}

def start (source : String) (interpreter : σ) : Debuggee σ :=
  ⟨.ofSource source, .fresh interpreter⟩

def during (debuggee : Debuggee σ) (talk : Talk σ α) : Except Failure α × Debuggee σ :=
  let (outcome, channel) := talk.runOver debuggee.channel
  (outcome, { debuggee with channel })

variable [Interpreter σ]

def stepScript (debuggee : Debuggee σ) : Except Failure Unit × Debuggee σ :=
  let (outcome, scene) := ScriptFrame.advance.runOver ⟨debuggee.stack.script, .none, debuggee.channel⟩
  let stack := { debuggee.stack with script := scene.frame }
  match outcome with
  | .ok () => (.ok (), ⟨stack.changed scene.change, scene.channel⟩)
  | .error failure => (.error failure, ⟨stack, scene.channel⟩)

def stepCall (debuggee : Debuggee σ) (top : CallFrame) (below : List CallFrame) :
    Except Failure Unit × Debuggee σ :=
  let (outcome, scene) := CallFrame.advance.runOver ⟨top, .none, debuggee.channel⟩
  let stack := { debuggee.stack with calls := scene.frame :: below }
  match outcome with
  | .ok () => (.ok (), ⟨stack.changed scene.change, scene.channel⟩)
  | .error failure => (.error failure, ⟨stack, scene.channel⟩)

/-- One step of the innermost frame; false when it has nothing left to run. -/
def advance (debuggee : Debuggee σ) : Except Failure Bool × Debuggee σ :=
  if debuggee.stack.hasNext then
    let (outcome, later) := match debuggee.stack.calls with
      | [] => debuggee.stepScript
      | top :: below => debuggee.stepCall top below
    (outcome.map fun _ => true, later)
  else (.ok false, debuggee)

/-- All that a step can be: the step of the innermost frame if it is active, and none otherwise. -/
inductive Advances (debuggee later : Debuggee σ) : Except Failure Bool → Prop where
  | rests (ended : debuggee.stack.hasNext = false) (same : later = debuggee) : Advances debuggee later (.ok false)
  | script (bottom : debuggee.stack.calls = []) (active : debuggee.stack.script.isActive = true)
      (stepped : debuggee.stepScript = (.ok (), later)) : Advances debuggee later (.ok true)
  | call {top below} (calls : debuggee.stack.calls = top :: below) (active : top.isActive = true)
      (stepped : debuggee.stepCall top below = (.ok (), later)) : Advances debuggee later (.ok true)
  | scriptFails {failure} (bottom : debuggee.stack.calls = []) (active : debuggee.stack.script.isActive = true)
      (stepped : debuggee.stepScript = (.error failure, later)) : Advances debuggee later (.error failure)
  | callFails {top below failure} (calls : debuggee.stack.calls = top :: below) (active : top.isActive = true)
      (stepped : debuggee.stepCall top below = (.error failure, later)) : Advances debuggee later (.error failure)

variable {debuggee later : Debuggee σ} {top : CallFrame} {below : List CallFrame}

theorem stepScript_went (stepped : debuggee.stepScript = (.ok (), later)) :
    ∃ scene, ScriptFrame.advance.runOver ⟨debuggee.stack.script, .none, debuggee.channel⟩ = (.ok (), scene) ∧
      later = ⟨({ debuggee.stack with script := scene.frame } : Stack).changed scene.change, scene.channel⟩ := by
  unfold stepScript at stepped
  rcases ran : (ScriptFrame.advance : Act ScriptFrame σ Unit).runOver ⟨debuggee.stack.script, .none, debuggee.channel⟩
    with ⟨_ | _, scene⟩ <;> rw [ran] at stepped <;> cases stepped
  exact ⟨scene, rfl, rfl⟩

/-- What a step that fails asked of the stack is not done. -/
theorem stepScript_error {failure : Failure} (stepped : debuggee.stepScript = (.error failure, later)) :
    ∃ scene, ScriptFrame.advance.runOver ⟨debuggee.stack.script, .none, debuggee.channel⟩ = (.error failure, scene) ∧
      later = ⟨{ debuggee.stack with script := scene.frame }, scene.channel⟩ := by
  unfold stepScript at stepped
  rcases ran : (ScriptFrame.advance : Act ScriptFrame σ Unit).runOver ⟨debuggee.stack.script, .none, debuggee.channel⟩
    with ⟨_ | _, scene⟩ <;> rw [ran] at stepped <;> cases stepped
  exact ⟨scene, rfl, rfl⟩

theorem stepCall_went (stepped : debuggee.stepCall top below = (.ok (), later)) :
    ∃ scene, CallFrame.advance.runOver ⟨top, .none, debuggee.channel⟩ = (.ok (), scene) ∧
      later = ⟨({ debuggee.stack with calls := scene.frame :: below } : Stack).changed scene.change, scene.channel⟩ := by
  unfold stepCall at stepped
  rcases ran : (CallFrame.advance : Act CallFrame σ Unit).runOver ⟨top, .none, debuggee.channel⟩
    with ⟨_ | _, scene⟩ <;> rw [ran] at stepped <;> cases stepped
  exact ⟨scene, rfl, rfl⟩

theorem stepCall_error {failure : Failure} (stepped : debuggee.stepCall top below = (.error failure, later)) :
    ∃ scene, CallFrame.advance.runOver ⟨top, .none, debuggee.channel⟩ = (.error failure, scene) ∧
      later = ⟨{ debuggee.stack with calls := scene.frame :: below }, scene.channel⟩ := by
  unfold stepCall at stepped
  rcases ran : (CallFrame.advance : Act CallFrame σ Unit).runOver ⟨top, .none, debuggee.channel⟩
    with ⟨_ | _, scene⟩ <;> rw [ran] at stepped <;> cases stepped
  exact ⟨scene, rfl, rfl⟩

theorem advance_cases {outcome : Except Failure Bool} (advanced : debuggee.advance = (outcome, later)) :
    Advances debuggee later outcome := by
  unfold advance at advanced
  split at advanced
  next next =>
    cases calls : debuggee.stack.calls with
    | nil =>
      have active : debuggee.stack.script.isActive = true := by simpa only [Stack.hasNext, calls] using next
      rw [calls] at advanced
      dsimp only at advanced
      rcases stepped : debuggee.stepScript with ⟨_ | _, behind⟩ <;> rw [stepped] at advanced <;> cases advanced
      · exact .scriptFails calls active stepped
      · exact .script calls active stepped
    | cons top below =>
      have active : top.isActive = true := by simpa only [Stack.hasNext, calls] using next
      rw [calls] at advanced
      dsimp only at advanced
      rcases stepped : debuggee.stepCall top below with ⟨_ | _, behind⟩ <;> rw [stepped] at advanced <;> cases advanced
      · exact .callFails calls active stepped
      · exact .call calls active stepped
  next ended =>
    cases advanced
    exact .rests (eq_false_of_ne_true ended) rfl

end Debuggee
end RStepper
