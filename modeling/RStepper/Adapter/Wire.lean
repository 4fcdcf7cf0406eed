import RStepper.Adapter.Message

/-!
Writing to the client. Several threads write, and each message takes two steps of its writer: first
it takes the next number, then it is put on the wire. Between the two another thread may take its
turn.
-/

namespace RStepper.Adapter

/-- What was written so far, oldest first, and how many numbers were taken. -/
structure Wire where
  drawn : Nat
  written : List Message
  deriving Repr, Inhabited

def Wire.fresh : Wire :=
  ⟨0, []⟩

/-- Something a thread has to do: write a message, or a deed of its own. -/
inductive Task (α : Type) where
  | write (content : Content)
  /-- Put a message on the wire that has its number. -/
  | put (message : Message)
  | own (deed : α)
  deriving Repr

namespace Task
variable {α : Type}

/-- Begins the first of some tasks, or finishes it: the deed to be done, if it is one, the tasks that
are left, and the wire behind it. -/
def next? (wire : Wire) : List (Task α) → Option (Option α × List (Task α) × Wire)
  | [] => none
  | .write content :: rest =>
    some (none, .put (content.numbered (wire.drawn + 1)) :: rest,
      { wire with drawn := wire.drawn + 1 })
  | .put message :: rest => some (none, rest, { wire with written := wire.written ++ [message] })
  | .own deed :: rest => some (some deed, rest, wire)

/-- A bound on the steps that a task takes; a deed may turn into a message. -/
def steps : Task α → Nat
  | .write _ => 2
  | .put _ => 1
  | .own _ => 3

/-- A bound on the steps that some tasks take. -/
def stepsOf : List (Task α) → Nat
  | [] => 0
  | task :: rest => task.steps + stepsOf rest

@[simp] theorem stepsOf_nil : stepsOf ([] : List (Task α)) = 0 := rfl

@[simp] theorem stepsOf_cons (task : Task α) (rest : List (Task α)) :
    stepsOf (task :: rest) = task.steps + stepsOf rest := rfl

theorem stepsOf_append (first second : List (Task α)) :
    stepsOf (first ++ second) = stepsOf first + stepsOf second := by
  induction first with
  | nil => simp
  | cons task rest ih => simp [ih, Nat.add_assoc]

/-- Writing makes progress. -/
theorem stepsOf_next?_lt {wire later : Wire} {tasks rest : List (Task α)}
    (done : next? wire tasks = some (none, rest, later)) : stepsOf rest < stepsOf tasks := by
  unfold next? at done
  split at done <;> cases done <;> simp [steps]

/-- A deed is done by itself. -/
theorem stepsOf_next?_own {wire later : Wire} {tasks rest : List (Task α)} {deed : α}
    (done : next? wire tasks = some (some deed, rest, later)) :
    stepsOf tasks = stepsOf rest + 3 := by
  unfold next? at done
  split at done <;> cases done
  simp [steps, Nat.add_comm]

end Task
end RStepper.Adapter
