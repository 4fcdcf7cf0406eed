import RStepper.Frame.Patience
import RStepper.Stack

/-!
Every step that leaves something to run uses up a part of what is left: an answer of the interpreter
or a line of the script. So a run of steps comes to an end.
-/

namespace RStepper.Debuggee
variable {σ : Type} [Interpreter σ]

/-- A bound on the steps that are left: what the interpreter will still answer, and the lines of the
script that are still to be read. -/
def stepsLeft (debuggee : Debuggee σ) : Nat :=
  debuggee.channel.patience + debuggee.stack.script.linesLeft

theorem linesLeft_changed_le (stack : Stack) (change : StackChange) :
    (stack.changed change).script.linesLeft ≤ stack.script.linesLeft := by
  have unwound : (stack.unwound change.dropped).script.linesLeft ≤ stack.script.linesLeft := by
    unfold Stack.unwound
    split
    · exact Nat.le_refl _
    · split
      · exact Nat.le_refl _
      · dsimp only
        split
        · exact ScriptFrame.linesLeft_settled_le _
        · exact Nat.le_refl _
  refine Nat.le_trans (Nat.le_of_eq ?_) unwound
  change ((stack.unwound change.dropped).resumedAt change.returnLine).script.linesLeft = _
  unfold Stack.resumedAt
  split <;> rfl

theorem stepsLeft_stepCall_lt {debuggee later : Debuggee σ} {top : CallFrame}
    {below : List CallFrame} (active : top.isActive = true)
    (stepped : debuggee.stepCall top below = (.ok (), later)) :
    later.stepsLeft < debuggee.stepsLeft := by
  obtain ⟨scene, ran, rfl⟩ := stepCall_went stepped
  have spent := CallFrame.patience_advance_lt active ran
  have lines := linesLeft_changed_le { debuggee.stack with calls := scene.frame :: below } scene.change
  dsimp only at spent lines
  unfold stepsLeft
  dsimp only
  omega

theorem stepsLeft_stepScript_lt {debuggee later : Debuggee σ}
    (stepped : debuggee.stepScript = (.ok (), later)) (next : later.stack.hasNext = true)
    (bottom : debuggee.stack.calls = []) : later.stepsLeft < debuggee.stepsLeft := by
  obtain ⟨scene, ran, rfl⟩ := stepScript_went stepped
  have spent := ScriptFrame.thrifty_advance ⟨debuggee.stack.script, .none, debuggee.channel⟩
  have read := ScriptFrame.linesLeft_advance ⟨debuggee.stack.script, .none, debuggee.channel⟩
  have lines := linesLeft_changed_le { debuggee.stack with script := scene.frame } scene.change
  rw [ran] at spent read
  dsimp only at spent lines read
  rcases read with fewer | ⟨halted, same⟩
  · unfold stepsLeft
    dsimp only
    omega
  · rw [same] at next
    simp [Stack.changed, Stack.unwound, Stack.resumedAt, Stack.hasNext, StackChange.none, bottom, halted] at next

/-- A step that leaves something to run makes what is left smaller. -/
theorem stepsLeft_advance_lt {debuggee later : Debuggee σ} {moved : Bool}
    (stepped : debuggee.advance = (.ok moved, later)) (moves : moved = true)
    (next : later.stack.hasNext = true) : later.stepsLeft < debuggee.stepsLeft := by
  cases advance_cases stepped with
  | rests => cases moves
  | script bottom _ ran => exact stepsLeft_stepScript_lt ran next bottom
  | call _ active ran => exact stepsLeft_stepCall_lt active ran

end RStepper.Debuggee
