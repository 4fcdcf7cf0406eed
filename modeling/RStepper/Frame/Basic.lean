import RStepper.Frame.Entry
import RStepper.Location

/-!
The frames of traced calls, the changes a step asks of the stack its frame lives in, and the scene
of a step: a frame, the change asked for so far, and the channel.
-/

namespace RStepper

/-- Where a call stands: paused at a line, or returned with a value that can be taken once. -/
inductive CallStatus where
  | paused (line : Int)
  | returned (value : Option String)
  deriving DecidableEq, Repr, Inhabited

structure CallFrame where
  shape : BodyShape
  name : String
  status : CallStatus
  deriving DecidableEq, Repr, Inhabited

namespace CallFrame

def isActive (frame : CallFrame) : Bool :=
  match frame.status with
  | .paused _ => true
  | .returned _ => false

def location (frame : CallFrame) : Location :=
  match frame.status with
  | .paused line => ⟨frame.name, line⟩
  | .returned _ => ⟨frame.name, Location.noLine⟩

/-- The value of a returned call, and the frame without it. -/
def takeResult (frame : CallFrame) : Option String × CallFrame :=
  match frame.status with
  | .paused _ => (none, frame)
  | .returned value => (value, { frame with status := .returned none })

/-- Moves a paused call to a line, if its body has more than one. -/
def atLine (frame : CallFrame) (line : Int) : CallFrame :=
  match frame.shape, frame.status with
  | .block, .paused _ => { frame with status := .paused line }
  | _, _ => frame

/-- Moves a paused call if a line is known. -/
def atLine? (frame : CallFrame) (line : Option Int) : CallFrame :=
  line.elim frame frame.atLine

def returning (frame : CallFrame) (value : String) : CallFrame :=
  { frame with status := .returned (some value) }

end CallFrame

/-- What a step asks of the stack. -/
structure StackChange where
  /-- Calls that were entered, in order. -/
  entered : List CallFrame
  /-- Frames that returned below the one that was stepped. -/
  dropped : Nat
  /-- The line that the caller goes on at, if it was announced. -/
  returnLine : Option Int
  deriving DecidableEq, Repr, Inhabited

def StackChange.none : StackChange :=
  ⟨[], 0, Option.none⟩

/-- The scene of a frame's step. -/
structure Scene (φ σ : Type) where
  frame : φ
  change : StackChange
  channel : Channel σ

/-- A computation of a frame. What it did to the scene before a failure stays. -/
abbrev Act (φ σ α : Type) := ExceptT Failure (StateM (Scene φ σ)) α

namespace Act
variable {φ σ α β : Type}

/-- Runs an act from a scene to its outcome and the scene behind it. -/
def runOver (act : Act φ σ α) (scene : Scene φ σ) : Except Failure α × Scene φ σ :=
  act.run.run scene

/-- An act given by what it does to scenes. -/
def of (run : Scene φ σ → Except Failure α × Scene φ σ) : Act φ σ α :=
  ExceptT.mk fun scene => run scene

/-- A conversation as a part of an act. -/
def talk (conversation : Talk σ α) : Act φ σ α :=
  of fun scene =>
    let (outcome, channel) := conversation.runOver scene.channel
    (outcome, { scene with channel })

instance : MonadLift (Talk σ) (Act φ σ) := ⟨talk⟩

def modifyFrame (update : φ → φ) : Act φ σ Unit :=
  modifyThe (Scene φ σ) fun scene => { scene with frame := update scene.frame }

def modifyChange (update : StackChange → StackChange) : Act φ σ Unit :=
  modifyThe (Scene φ σ) fun scene => { scene with change := update scene.change }

def frame : Act φ σ φ := do
  return (← getThe (Scene φ σ)).frame

@[simp] theorem runOver_of (run : Scene φ σ → Except Failure α × Scene φ σ) (scene : Scene φ σ) :
    (of run).runOver scene = run scene := rfl

theorem runOver_talk (conversation : Talk σ α) (scene : Scene φ σ) :
    (talk conversation : Act φ σ α).runOver scene =
      ((conversation.runOver scene.channel).1,
        { scene with channel := (conversation.runOver scene.channel).2 }) := rfl

theorem runOver_bind (act : Act φ σ α) (next : α → Act φ σ β) (scene : Scene φ σ) :
    (act >>= next).runOver scene =
      match act.runOver scene with
      | (.ok value, later) => (next value).runOver later
      | (.error failure, later) => (.error failure, later) := by
  simp only [runOver, ExceptT.run_bind, StateT.run_bind]
  change (match act.run.run scene with | (outcome, later) => _) = _
  rcases act.run.run scene with ⟨outcome, later⟩
  cases outcome <;> rfl

/-- No run of the act makes a quantity of its scene larger. -/
def Bounds (quantity : Scene φ σ → Nat) (act : Act φ σ α) : Prop :=
  ∀ scene, quantity (act.runOver scene).2 ≤ quantity scene

variable {quantity : Scene φ σ → Nat}

theorem Bounds.pure (value : α) : Bounds quantity (Pure.pure value : Act φ σ α) :=
  fun _ => Nat.le_refl _

theorem Bounds.throw (failure : Failure) : Bounds quantity (throw failure : Act φ σ α) :=
  fun _ => Nat.le_refl _

theorem Bounds.bind {act : Act φ σ α} {next : α → Act φ σ β} (first : Bounds quantity act)
    (rest : ∀ value, Bounds quantity (next value)) : Bounds quantity (act >>= next) := by
  intro scene
  have spent := first scene
  rw [runOver_bind]
  rcases seen : act.runOver scene with ⟨outcome, later⟩
  rw [seen] at spent
  cases outcome with
  | error failure => exact spent
  | ok value => exact Nat.le_trans (rest value later) spent

theorem bounds_frame : Bounds quantity (frame : Act φ σ φ) :=
  fun _ => Nat.le_refl _

variable [Interpreter σ]

/-- No run of the act adds to the interpreter's patience. -/
abbrev Thrifty (act : Act φ σ α) : Prop :=
  Bounds (fun scene => scene.channel.patience) act

theorem thrifty_talk {conversation : Talk σ α} (spent : conversation.Thrifty) :
    Thrifty (talk conversation : Act φ σ α) :=
  fun scene => spent scene.channel

theorem thrifty_modifyFrame (update : φ → φ) : Thrifty (modifyFrame update : Act φ σ Unit) :=
  fun _ => Nat.le_refl _

theorem thrifty_modifyChange (update : StackChange → StackChange) :
    Thrifty (modifyChange update : Act φ σ Unit) :=
  fun _ => Nat.le_refl _

end Act
end RStepper
