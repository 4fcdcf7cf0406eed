import RStepper.Interpreter

/-!
Interpreters of two kinds side by side.
-/

namespace RStepper
variable {σ τ : Type} [Interpreter σ] [Interpreter τ]

instance : Interpreter (σ ⊕ τ) where
  answer
    | .inl first, command =>
      let (reply, later) := Interpreter.answer first command
      (reply, .inl later)
    | .inr second, command =>
      let (reply, later) := Interpreter.answer second command
      (reply, .inr later)
  patience
    | .inl first => Interpreter.patience first
    | .inr second => Interpreter.patience second
  patience_answer_le
    | .inl first, command => Interpreter.patience_answer_le first command
    | .inr second, command => Interpreter.patience_answer_le second command
  patience_step_lt
    | .inl first, said => Interpreter.patience_step_lt first said
    | .inr second, said => Interpreter.patience_step_lt second said

end RStepper
