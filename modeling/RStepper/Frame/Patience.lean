import RStepper.Frame.Call
import RStepper.Frame.Script

/-!
A step of a frame adds nothing to what is left: the interpreter's patience and the lines of the
script that are still to come.
-/

namespace RStepper

namespace CallFrame
variable {σ : Type} [Interpreter σ]
open Act

theorem patience_noted (response : Response) (scene : Scene CallFrame σ) :
    (noted response scene).channel.patience = scene.channel.patience :=
  Talk.patience_write _ _

theorem thrifty_pauseAt (response : Response) : (pauseAt response : Act CallFrame σ Unit).Thrifty := by
  intro scene
  change (pauseIn response scene).2.channel.patience ≤ _
  fun_induction pauseIn response scene with
  | case1 response scene here loops next channel stepped ih =>
    have spent := Talk.patience_expecting_lt stepped
    rw [show here.channel.patience = scene.channel.patience from patience_noted response scene] at spent
    exact Nat.le_trans ih (Nat.le_of_lt spent)
  | case2 response scene here loops failure channel stepped =>
    have spent := Talk.thrifty_expecting stepCommand [.paused] here.channel
    rw [stepped] at spent
    exact Nat.le_trans spent (Nat.le_of_eq (patience_noted response scene))
  | case3 response scene here => exact Nat.le_of_eq (patience_noted response scene)

theorem thrifty_enter : (enter : Act CallFrame σ Unit).Thrifty := by
  refine .bind bounds_frame fun frame => ?_
  have listing : (talk Instrument.loadFunctions : Act CallFrame σ Unit).Thrifty :=
    thrifty_talk Instrument.thrifty_loadFunctions
  cases frame.shape with
  | block =>
    exact .bind (thrifty_talk (Talk.thrifty_expecting _ _)) fun response =>
      .bind (thrifty_pauseAt response) fun _ => listing
  | expression => exact .bind (thrifty_modifyFrame _) fun _ => listing

theorem thrifty_start (entry : Entry) : (start entry : Talk σ CallFrame).Thrifty :=
  fun channel => thrifty_enter ⟨⟨entry.shape, entry.name, .paused 1⟩, .none, channel⟩

theorem thrifty_ofCall : (ofCall : Talk σ CallFrame).Thrifty :=
  .bind Entry.thrifty_find fun entry => thrifty_start entry

theorem thrifty_reenter (response : Response) : (reenter response : Act CallFrame σ Unit).Thrifty := by
  refine .bind (thrifty_talk (Talk.thrifty_emit _)) fun _ => .bind (thrifty_talk Entry.thrifty_find) fun entry =>
    .bind bounds_frame fun frame => ?_
  split
  · exact .bind (.throw _) fun _ => .bind (thrifty_modifyFrame _) fun _ => thrifty_enter
  · exact .bind (thrifty_modifyFrame _) fun _ => thrifty_enter

theorem thrifty_returnLine (response : Response) :
    (returnLine response : Talk σ (Option Int)).Thrifty := by
  unfold returnLine
  dsimp only
  split
  · exact .bind (Talk.thrifty_expecting _ _) fun _ => .bind (Talk.thrifty_emit _) fun _ => .pure _
  · exact .pure _

theorem thrifty_leave (response : Response) (many : Bool) :
    (leave response many : Act CallFrame σ Unit).Thrifty := by
  have returning (line : Option Int) : (do
      if line.isSome then
        Act.modifyChange fun change => { change with returnLine := line }
      Act.modifyFrame (·.returning response.output) : Act CallFrame σ Unit).Thrifty := by
    dsimp only
    split
    · exact .bind (thrifty_modifyChange _) fun _ => thrifty_modifyFrame _
    · exact thrifty_modifyFrame _
  refine .bind (thrifty_talk (Talk.thrifty_emit _)) fun _ => ?_
  dsimp only
  split
  · exact .bind (thrifty_modifyChange _) fun _ => .bind (thrifty_talk (thrifty_returnLine _)) returning
  · exact .bind (thrifty_talk (thrifty_returnLine _)) returning

theorem thrifty_follow (response : Response) : (follow response : Act CallFrame σ Unit).Thrifty := by
  refine .bind bounds_frame fun frame => ?_
  cases response.kind with
  | paused =>
    exact .bind (thrifty_pauseAt _) fun _ => thrifty_talk Instrument.thrifty_loadFunctions
  | entering => exact .bind (thrifty_talk thrifty_ofCall) fun _ => thrifty_modifyChange _
  | reentered => exact thrifty_reenter _
  | returned => exact thrifty_leave _ _
  | returnedMany => exact thrifty_leave _ _
  | quiet =>
    cases frame.shape with
    | block => exact .pure _
    | expression => exact thrifty_modifyFrame _
  | continuation => exact .throw _
  | tracedBlock => exact .throw _
  | tracedExpression => exact .throw _
  | printed => exact .throw _

/-- A step of an active call that succeeds has taken some of the interpreter's patience. -/
theorem patience_advance_lt {scene later : Scene CallFrame σ} (active : scene.frame.isActive = true)
    (stepped : (advance : Act CallFrame σ Unit).runOver scene = (.ok (), later)) :
    later.channel.patience < scene.channel.patience := by
  unfold advance at stepped
  rw [runOver_bind] at stepped
  change ((if scene.frame.isActive = true then _ else _ : Act CallFrame σ Unit).runOver scene) = _ at stepped
  rw [if_pos active, runOver_bind] at stepped
  split at stepped
  next response middle asked =>
    have spent := thrifty_follow response middle
    rw [stepped] at spent
    refine Nat.lt_of_le_of_lt spent ?_
    rcases executed : (Talk.execute stepCommand : Talk σ Response).runOver scene.channel with ⟨outcome, channel⟩
    rw [runOver_talk, executed] at asked
    cases asked
    exact Talk.patience_execute_lt executed
  next => cases stepped

end CallFrame

namespace ScriptFrame
variable {σ : Type} [Interpreter σ]
open Act

theorem thrifty_runStatement (command : String) (ahead : List String) :
    (runStatement command ahead : Act ScriptFrame σ Bool).Thrifty := by
  have entered : (descend : Act ScriptFrame σ Unit).Thrifty :=
    .bind (thrifty_talk CallFrame.thrifty_ofCall) fun _ => thrifty_modifyChange _
  have finished (response : Response) : (finishStatement response : Act ScriptFrame σ Unit).Thrifty :=
    .bind (thrifty_talk (Talk.thrifty_emit _)) fun _ => thrifty_talk Instrument.thrifty_loadFunctions
  exact runStatement_closed Thrifty .bind (fun _ (_ : True) => thrifty_talk (Talk.thrifty_expecting _ _))
    (thrifty_modifyFrame _) .throw entered finished .pure trivial fun _ _ => trivial

theorem thrifty_settling {act : Act ScriptFrame σ Bool} (spent : act.Thrifty) :
    (settling act).Thrifty := by
  intro scene
  have left := spent scene
  unfold settling
  rw [runOver_of]
  split <;> simp_all

theorem thrifty_runFront (script : Script) (lines : List String) :
    (runFront script lines : Act ScriptFrame σ Unit).Thrifty := by
  cases lines with
  | nil => exact thrifty_modifyFrame _
  | cons line rest =>
    exact .bind (thrifty_modifyFrame _) fun _ => thrifty_settling (thrifty_runStatement _ _)

theorem thrifty_advance : (advance : Act ScriptFrame σ Unit).Thrifty :=
  .bind bounds_frame fun _ => thrifty_runFront _ _

/-- The lines of the script that are still to be read. -/
def linesLeft (frame : ScriptFrame) : Nat :=
  frame.script.ahead.length

theorem linesLeft_read_le (frame : ScriptFrame) : frame.read.linesLeft ≤ frame.linesLeft := by
  unfold read linesLeft Script.advance
  split <;> simp_all

theorem ahead_skip (script : Script) (count : Nat) :
    (script.skip count).ahead = script.ahead.drop count := by
  induction count generalizing script with
  | zero => simp [Script.skip]
  | succ count ih =>
    rw [Script.skip, ih, Script.advance]
    cases seen : script.ahead <;> simp

theorem ahead_skipIgnorable (script : Script) :
    script.skipIgnorable.ahead = script.ahead.dropWhile Script.isIgnorable := by
  rw [Script.skipIgnorable, ahead_skip]
  generalize script.ahead = lines
  induction lines with
  | nil => rfl
  | cons line rest ih =>
    by_cases skipped : Script.isIgnorable line = true
    · simp [skipped, ih]
    · simp [skipped]

theorem length_dropWhile_le (test : String → Bool) (lines : List String) :
    (lines.dropWhile test).length ≤ lines.length :=
  (List.dropWhile_sublist test).length_le

theorem linesLeft_settled_le (frame : ScriptFrame) : frame.settled.linesLeft ≤ frame.linesLeft := by
  simp only [settled, linesLeft, ahead_skipIgnorable]
  exact length_dropWhile_le _ _

/-- No run of the act puts lines back. -/
abbrev Receding {α : Type} (act : Act ScriptFrame σ α) : Prop :=
  Bounds (fun scene => scene.frame.linesLeft) act

omit [Interpreter σ] in
theorem receding_talk {α : Type} (conversation : Talk σ α) :
    Receding (talk conversation : Act ScriptFrame σ α) :=
  fun _ => Nat.le_refl _

omit [Interpreter σ] in
theorem receding_modifyChange (update : StackChange → StackChange) :
    Receding (modifyChange update : Act ScriptFrame σ Unit) :=
  fun _ => Nat.le_refl _

omit [Interpreter σ] in
theorem receding_read : Receding (modifyFrame read : Act ScriptFrame σ Unit) :=
  fun scene => linesLeft_read_le scene.frame

theorem receding_runStatement (command : String) (ahead : List String) :
    Receding (runStatement command ahead : Act ScriptFrame σ Bool) := by
  have entered : Receding (descend : Act ScriptFrame σ Unit) := .bind (receding_talk _) fun _ => receding_modifyChange _
  have finished (response : Response) : Receding (finishStatement response : Act ScriptFrame σ Unit) :=
    .bind (receding_talk _) fun _ => receding_talk _
  exact runStatement_closed Receding .bind (fun _ (_ : True) => receding_talk _) receding_read .throw entered finished
    .pure trivial fun _ _ => trivial

omit [Interpreter σ] in
theorem receding_settling {act : Act ScriptFrame σ Bool} (spent : Receding act) :
    Receding (settling act) := by
  intro scene
  have left := spent scene
  unfold settling
  rw [runOver_of]
  split
  next seen => simpa [seen] using left
  all_goals
    next seen => exact Nat.le_trans (linesLeft_settled_le _) (by simpa [seen] using left)

/-- A step of the script reads a line, or it finds that there is none and asks for nothing. -/
theorem linesLeft_advance (scene : Scene ScriptFrame σ) :
    ((advance : Act ScriptFrame σ Unit).runOver scene).2.frame.linesLeft < scene.frame.linesLeft ∨
      (((advance : Act ScriptFrame σ Unit).runOver scene).2.frame.isActive = false ∧
        ((advance : Act ScriptFrame σ Unit).runOver scene).2.change = scene.change) := by
  have skipped := length_dropWhile_le Script.isIgnorable scene.frame.script.ahead
  rw [← ahead_skipIgnorable] at skipped
  have unfolded : (advance : Act ScriptFrame σ Unit).runOver scene =
      (runFront scene.frame.script.skipIgnorable
        scene.frame.script.skipIgnorable.ahead : Act ScriptFrame σ Unit).runOver scene := rfl
  rw [unfolded]
  cases found : scene.frame.script.skipIgnorable.ahead with
  | nil => exact .inr ⟨rfl, rfl⟩
  | cons line rest =>
    rw [found] at skipped
    have later := receding_settling (receding_runStatement line rest)
      { scene with frame := { scene.frame with script := scene.frame.script.skipIgnorable.advance } }
    refine .inl (Nat.lt_of_le_of_lt later ?_)
    simp only [linesLeft, Script.advance, found]
    simpa using Nat.lt_of_succ_le skipped

end ScriptFrame
end RStepper
