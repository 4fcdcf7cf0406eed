import RStepper.Interpreter

/-!
An interpreter that answers from a list. Rules answer every command with a given beginning and are
never used up; other commands take the next reply, and behind the last one the channel is closed.
-/

namespace RStepper

/-- The standing answer to all commands that start with `opening`. -/
structure Rule where
  opening : String
  reply : Reply
  deriving DecidableEq, Repr

def Rule.applies (rule : Rule) (command : String) : Bool :=
  rule.opening.toList.isPrefixOf command.toList

/-- Rules, the replies that are left, and how many steps the rules may still answer. -/
structure Scripted where
  rules : List Rule
  replies : List Reply
  ruledSteps : Nat
  deriving DecidableEq, Repr

namespace Scripted

def rule? (script : Scripted) (command : String) : Option Rule :=
  script.rules.find? (·.applies command)

def answer (script : Scripted) (command : String) : Reply × Scripted :=
  match script.rule? command with
  | some rule =>
    if command = stepCommand then
      match script.ruledSteps with
      | 0 => (.closed, script)
      | steps + 1 => (rule.reply, { script with ruledSteps := steps })
    else (rule.reply, script)
  | none =>
    match script.replies with
    | [] => (.closed, script)
    | reply :: rest => (reply, { script with replies := rest })

def patience (script : Scripted) : Nat :=
  script.replies.length + script.ruledSteps

theorem patience_answer_le (script : Scripted) (command : String) :
    (script.answer command).2.patience ≤ script.patience := by
  unfold answer patience
  split
  · split
    · split <;> simp_all
    · simp
  · split <;> simp_all

theorem patience_step_lt (script : Scripted)
    (said : (script.answer stepCommand).1.isSaid = true) :
    (script.answer stepCommand).2.patience < script.patience := by
  unfold answer patience at *
  split at said
  · simp only [↓reduceIte] at *
    split at said
    · simp [Reply.isSaid] at said
    · simp_all
  · split at said
    · simp [Reply.isSaid] at said
    · simp_all

instance : Interpreter Scripted where
  answer := answer
  patience := patience
  patience_answer_le := patience_answer_le
  patience_step_lt := patience_step_lt

end Scripted
end RStepper
