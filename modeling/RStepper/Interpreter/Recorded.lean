import RStepper.Interpreter

/-!
An interpreter whose answers arrive from outside, one by one: as long as the next one is not known,
it is pending. A computation that stops at a pending answer is done again once that is known.
-/

namespace RStepper

/-- The answers that are known and not taken. -/
structure Recorded where
  replies : List Reply
  deriving DecidableEq, Repr, Inhabited

namespace Recorded

def answer (recorded : Recorded) (_ : String) : Reply × Recorded :=
  match recorded.replies with
  | [] => (.pending, recorded)
  | reply :: rest => (reply, ⟨rest⟩)

instance : Interpreter Recorded where
  answer := answer
  patience recorded := recorded.replies.length
  patience_answer_le recorded _ := by
    unfold answer
    split <;> simp_all
  patience_step_lt recorded said := by
    unfold answer at said ⊢
    split at said
    · cases said
    · simp_all

end Recorded
end RStepper
