import RStepper.Inspect
import RStepper.Stack

/-! What can be done to a debuggee, and the debuggees that come of it. A history goes on after an
operation that failed. It is finite, so the bound on an interpreter's patience leaves none out: what
answers steps without end is, as far as one history goes, an interpreter with patience for that many. -/

namespace RStepper
variable {σ : Type} [Interpreter σ]

inductive Operation where
  | advance
  | evaluate (expression : String)
  | condition (expression : String)
  | inspection

namespace Debuggee

/-- The debuggee behind one operation, whether it went well or not. -/
def operate (debuggee : Debuggee σ) : Operation → Debuggee σ
  | .advance => debuggee.advance.2
  | .evaluate expression => (debuggee.during (Inspect.evaluate expression)).2
  | .condition expression => (debuggee.during (Inspect.conditionHolds expression)).2
  | .inspection => (debuggee.during Inspect.visible).2

def after (source : String) (interpreter : σ) (operations : List Operation) : Debuggee σ :=
  operations.foldl operate (start source interpreter)

theorem after_induction {motive : Debuggee σ → Prop} (source : String) (interpreter : σ)
    (initial : motive (start source interpreter))
    (step : ∀ debuggee operation, motive debuggee → motive (debuggee.operate operation))
    (operations : List Operation) : motive (after source interpreter operations) := by
  have fold (debuggee : Debuggee σ) (holds : motive debuggee) : motive (operations.foldl operate debuggee) := by
    induction operations generalizing debuggee with
    | nil => exact holds
    | cons operation rest ih => exact ih _ (step debuggee operation holds)
  exact fold _ initial

theorem channel_stepScript (debuggee : Debuggee σ) : debuggee.stepScript.2.channel =
    (ScriptFrame.advance.runOver ⟨debuggee.stack.script, .none, debuggee.channel⟩).2.channel := by
  unfold stepScript
  rcases ScriptFrame.advance.runOver ⟨debuggee.stack.script, .none, debuggee.channel⟩ with ⟨_ | _, _⟩ <;> rfl

theorem channel_stepCall (debuggee : Debuggee σ) (top : CallFrame) (below : List CallFrame) :
    (debuggee.stepCall top below).2.channel =
      (CallFrame.advance.runOver ⟨top, .none, debuggee.channel⟩).2.channel := by
  unfold stepCall
  rcases CallFrame.advance.runOver ⟨top, .none, debuggee.channel⟩ with ⟨_ | _, _⟩ <;> rfl

end Debuggee
end RStepper
