import RStepper.Interpreter.Scripted
import RStepper.Proofs.ResponseRange
import RStepper.Proofs.StackInvariant

/-! Where every frame of the stack is behind a step of a call. The response to the step's first command
decides how many frames go, and no frame but the one that comes up changes. -/

namespace RStepper
variable {σ : Type}

/-- The return lines among the body lines of a response. -/
def Response.returnLines (response : Response) : Nat :=
  (bodyOf (Text.rows response.raw.toList)).countP Marker.isReturning

theorem Response.returnCount_eq {text : String} {response : Response} (classified : classify text = some response) :
    CallFrame.returnCount response = response.returnLines := by
  rw [CallFrame.returnCount, text_eq_joinLines classified]
  exact Text.countP_lines_joinLines response.body_breakFree (by decide)

/-- A frame that goes on because the frame above it returned: a call with a block at the reported
line, the script at its next statement. -/
def Frame.resumed (line : Option Int) : Frame → Frame
  | .script frame => .script frame.settled
  | .call frame => .call (match frame.shape, line with
    | .block, some number => { frame with status := .paused number }
    | _, _ => frame)

namespace Stack

/-- The innermost call may have moved; nothing else did. -/
structure Keeps (before after : Stack) : Prop where
  frames : ∃ call : CallFrame, call.isActive = true ∧ after.frames = .call call :: before.frames.tail
  depth : after.depth = before.depth
  lastResult : after.lastResult = before.lastResult

structure Adds (before after : Stack) : Prop where
  frames : ∃ callee : CallFrame, callee.isActive = true ∧ after.frames = .call callee :: before.frames
  lastResult : after.lastResult = before.lastResult

/-- The innermost frames went, `count` of them or all but the script, and left a value. -/
structure Removes (count : Nat) (value : String) (line : Option Int) (before after : Stack) : Prop where
  depth : after.depth = max 1 (before.depth - count)
  frames : ∃ gone caller kept, before.frames = gone ++ caller :: kept ∧ after.frames = caller.resumed line :: kept
  lastResult : after.lastResult = some value

theorem resumed_call {call : CallFrame} (sound : call.Sound) (line : Option Int) :
    (Frame.call call).resumed line = .call (call.atLine? line) := by
  obtain ⟨old, paused, _⟩ := sound
  cases shape : call.shape <;> cases line <;>
    simp [Frame.resumed, CallFrame.atLine?, CallFrame.atLine, shape, paused]

theorem removes_returned {stack : Stack} (sound : ∀ call ∈ stack.calls, call.Sound) (count : Nat) (value : String)
    (line : Option Int) : stack.Removes count value line (stack.returned count value line) := by
  refine ⟨depth_returned .., ?_, ?_⟩
  · have split : stack.calls = stack.calls.take count ++ stack.calls.drop count := (List.take_append_drop ..).symm
    unfold returned frames
    cases left : stack.calls.drop count with
    | nil => exact ⟨stack.calls.map .call, .script stack.script, [], rfl, rfl⟩
    | cons caller rest =>
      refine ⟨(stack.calls.take count).map .call, .call caller, rest.map .call ++ [.script stack.script], ?_, ?_⟩
      · calc stack.calls.map Frame.call ++ [.script stack.script]
          _ = (stack.calls.take count ++ caller :: rest).map Frame.call ++ [.script stack.script] := by rw [← left, ← split]
          _ = _ := by simp
      · have below : caller ∈ stack.calls := List.mem_of_mem_drop (left ▸ List.mem_cons_self)
        rw [resumed_call (sound caller below)]
        rfl
  · unfold returned
    split <;> rfl

end Stack

namespace Debuggee
variable [Interpreter σ]

/-- What a step that started with `response` made of the stack; `asked` is the channel behind that
response. -/
def Accounts (before : Debuggee σ) (top : CallFrame) (response : Response) (asked : Channel σ)
    (later : Debuggee σ) : Prop :=
  let reported (line : Option Int) :=
    (CallFrame.returnLine response).runOver (asked.write ⟨response.output, false⟩) = (.ok line, later.channel)
  match response.kind with
  | .paused | .reentered => before.stack.Keeps later.stack
  | .entering => before.stack.Adds later.stack
  | .returned => ∃ line, reported line ∧ before.stack.Removes 1 response.output line later.stack
  | .returnedMany => ∃ line, reported line ∧
    before.stack.Removes (max 1 response.returnLines) response.output line later.stack
  | .quiet =>
    match top.shape with
    | .block => before.stack.Keeps later.stack
    | .expression => before.stack.Removes 1 "" none later.stack
  | .continuation | .tracedBlock | .tracedExpression | .printed => False

theorem stepCall_accounts {source : String} {debuggee later : Debuggee σ} {top : CallFrame} {below : List CallFrame}
    (calls : debuggee.stack.calls = top :: below) (valid : debuggee.stack.Valid source)
    (stepped : debuggee.stepCall top below = (.ok (), later)) :
    ∃ response asked, (Talk.execute stepCommand).runOver debuggee.channel = (.ok response, asked) ∧
      debuggee.Accounts top response asked later := by
  have sound : top.Sound := valid.calls top (by simp [calls])
  have unchanged : { debuggee.stack with calls := top :: below } = debuggee.stack := by rw [← calls]
  obtain ⟨response, asked, scene, replied, steps, rfl⟩ := stepCall_ok sound.isActive stepped
  refine ⟨response, asked, replied, ?_⟩
  have keeps (moved : CallFrame) (active : moved.isActive = true) :
      debuggee.stack.Keeps (({ debuggee.stack with calls := moved :: below } : Stack).changed .none) := by
    rw [StackChange.none, Stack.changed_active _ active]
    exact ⟨⟨moved, active, by simp [Stack.frames, calls]⟩, by simp [Stack.depth, calls], rfl⟩
  have removes (value : String) (dropped : Nat) (line : Option Int) : debuggee.stack.Removes (dropped + 1) value line
      (({ debuggee.stack with calls := top.returning value :: below } : Stack).changed ⟨[], dropped, line⟩) := by
    rw [Stack.changed_returning, unchanged]
    exact Stack.removes_returned valid.calls _ _ _
  cases steps with
  | stays kind same =>
    have kept := keeps scene.frame (same.sound sound).isActive
    rw [← show scene.change = .none from same.change] at kept
    rcases kind with kind | kind | ⟨kind, shape⟩
    · simpa only [Accounts, kind] using kept
    · simpa only [Accounts, kind] using kept
    · simpa only [Accounts, kind, shape] using kept
  | enters kind fresh =>
    simp only [Accounts, kind]
    rw [Stack.changed_active _ sound.isActive]
    exact ⟨⟨_, fresh.isActive, by simp [Stack.frames, calls]⟩, rfl⟩
  | @returns many line channel kind announced =>
    obtain ⟨body, diagnostics, _, classified⟩ := Talk.execute_ok replied
    cases many with
    | false =>
      simp only [Accounts, show response.kind = .returned from kind]
      exact ⟨line, announced, removes response.output 0 line⟩
    | true =>
      simp only [Accounts, show response.kind = .returnedMany from kind]
      refine ⟨line, announced, ?_⟩
      have count : response.returnLines - 1 + 1 = max 1 response.returnLines := by omega
      rw [← count, ← Response.returnCount_eq classified]
      exact removes response.output (CallFrame.returnCount response - 1) line
  | finishes kind single =>
    simp only [Accounts, kind, single]
    exact removes "" 0 none

/-- In every state that can be reached with a call on top, a step that goes well accounts for every
frame: by the response to its first command it moves the call at most, adds a callee, or takes off as
many frames as returned, and then keeps the value of the return. -/
theorem advance_accounts {source : String} {interpreter : σ} {operations : List Operation} {top : CallFrame}
    {below : List CallFrame} {moved : Bool} {later : Debuggee σ}
    (calls : (after source interpreter operations).stack.calls = top :: below)
    (advanced : (after source interpreter operations).advance = (.ok moved, later)) :
    ∃ response asked,
      (Talk.execute stepCommand).runOver (after source interpreter operations).channel = (.ok response, asked) ∧
      (after source interpreter operations).Accounts top response asked later := by
  have valid := after_valid source interpreter operations
  have next : (after source interpreter operations).stack.hasNext = true := by
    simpa only [Stack.hasNext, calls] using valid.top_active calls
  unfold advance at advanced
  rw [if_pos next, calls] at advanced
  dsimp only at advanced
  rcases stepped : (after source interpreter operations).stepCall top below with ⟨_ | _, behind⟩ <;>
    rw [stepped] at advanced <;> cases advanced
  exact stepCall_accounts calls valid stepped

/-- Two calls of one expression each, entered one from the other and left in one step. -/
def nestedReturn : Scripted where
  rules := [⟨"Filter(", .said "character(0)\nBrowse[1]> " ""⟩]
  replies := [
    .said "debugging in: f()\nBrowse[2]> " "",
    .said "Tracing f() on entry\n1\ndebug: g()\nBrowse[2]> " "",
    .said "debugging in: g()\nBrowse[3]> " "",
    .said "Tracing g() on entry\n1\ndebug: 7\nBrowse[3]> " "",
    .said "Tracing g() on exit\n1\nexiting from: g()\nTracing f() on exit\n1\nexiting from: f()\nBrowse[1]> " ""]
  ruledSteps := 0

omit [Interpreter σ] in
private theorem ok_of_toOption {outcome : Except Failure Bool × Debuggee σ} {moved : Bool}
    (answered : outcome.1.toOption = some moved) : outcome = (.ok moved, outcome.2) := by
  obtain ⟨_ | value, later⟩ := outcome <;> cases answered
  rfl

theorem nestedReturn_accounts :
    (after "f()" nestedReturn [.advance, .advance]).stack.calls =
      [⟨.expression, "g", .paused 1⟩, ⟨.expression, "f", .paused 1⟩] ∧
    (after "f()" nestedReturn [.advance, .advance]).advance.1 = .ok true ∧
    ∃ response asked,
      (Talk.execute stepCommand).runOver (after "f()" nestedReturn [.advance, .advance]).channel = (.ok response, asked) ∧
      (after "f()" nestedReturn [.advance, .advance]).Accounts ⟨.expression, "g", .paused 1⟩ response asked
        (after "f()" nestedReturn [.advance, .advance]).advance.2 := by
  obtain ⟨calls, answered⟩ : (after "f()" nestedReturn [.advance, .advance]).stack.calls =
        [⟨.expression, "g", .paused 1⟩, ⟨.expression, "f", .paused 1⟩] ∧
      (after "f()" nestedReturn [.advance, .advance]).advance.1.toOption = some true := by decide +kernel
  have went := ok_of_toOption answered
  exact ⟨calls, congrArg Prod.fst went, advance_accounts calls went⟩

end Debuggee
end RStepper
