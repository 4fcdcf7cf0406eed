import RStepper.Proofs.CallStep

/-! Everything a step can do to the script. It stays at the statement that entered a call, and stands
at the next statement or behind the last one in every other case, failures included. -/

namespace RStepper
variable {σ : Type}

namespace Script

/-- What is ahead are the lines of the source behind those that were passed. -/
structure Reads (source : String) (script : Script) : Prop where
  ahead : script.ahead = (linesOf source).drop script.passed
  passed : script.passed ≤ (linesOf source).length

theorem Reads.ofSource (source : String) : (ofSource source).Reads source := ⟨rfl, Nat.zero_le _⟩

theorem Reads.advance {source : String} {script : Script} (reads : script.Reads source) :
    script.advance.Reads source := by
  unfold Script.advance
  split
  next => exact ⟨reads.ahead, reads.passed⟩
  next line rest seen =>
    have found : (linesOf source).drop script.passed = line :: rest := reads.ahead.symm.trans seen
    have longer : script.passed < (linesOf source).length := by
      have length := congrArg List.length found
      simp only [List.length_drop, List.length_cons] at length
      omega
    refine ⟨?_, longer⟩
    calc rest = (line :: rest).drop 1 := rfl
      _ = (linesOf source).drop (script.passed + 1) := by rw [← found, List.drop_drop]

theorem Reads.skip {source : String} {script : Script} (reads : script.Reads source) (count : Nat) :
    (script.skip count).Reads source := by
  induction count generalizing script with
  | zero => exact reads
  | succ count ih => exact ih reads.advance

/-- No line has a number behind the number of lines. -/
theorem Reads.number_le {source : String} {script : Script} (reads : script.Reads source) {line : SourceLine}
    (next : script.next = some line) : line.number ≤ (linesOf source).length := by
  obtain ⟨text, front, rfl⟩ := Option.map_eq_some_iff.mp next
  have some : (linesOf source).drop script.passed ≠ [] := by
    rw [← reads.ahead]
    exact List.ne_nil_of_mem (List.mem_of_head? front)
  exact Nat.lt_of_not_le fun behind => some (List.drop_eq_nil_of_le behind)

theorem ahead_skipIgnorable_head {script : Script} {line : String} {rest : List String}
    (front : script.skipIgnorable.ahead = line :: rest) : isIgnorable line = false := by
  rw [ScriptFrame.ahead_skipIgnorable] at front
  have shown := List.head?_dropWhile_not isIgnorable script.ahead
  simpa [front] using shown

theorem skipIgnorable_idem (script : Script) : script.skipIgnorable.skipIgnorable = script.skipIgnorable := by
  have nothing : script.skipIgnorable.ahead.takeWhile isIgnorable = [] := by
    cases front : script.skipIgnorable.ahead with
    | nil => rfl
    | cons line rest => simp [ahead_skipIgnorable_head front]
  rw [Script.skipIgnorable, nothing]
  rfl

end Script

namespace ScriptFrame

/-- Standing at a statement, or behind the last one. -/
def Settled (frame : ScriptFrame) : Prop :=
  frame.settled = frame

theorem settled_settled (frame : ScriptFrame) : frame.settled.Settled := by
  simp only [Settled, settled, Script.skipIgnorable_idem]

theorem settled_behind_end {script : Script} (ended : script.ahead = []) : Settled ⟨script.advance, none⟩ := by
  have behind : script.advance.ahead = [] := by simp [Script.advance, ended]
  simp [Settled, settled, Script.skipIgnorable, Script.skip, Script.next, behind]

theorem Settled.line {frame : ScriptFrame} (settled : frame.Settled) :
    frame.line = frame.script.next.map SourceLine.number := by
  rw [← show frame.settled = frame from settled, ScriptFrame.settled]

theorem Settled.skipIgnorable {frame : ScriptFrame} (settled : frame.Settled) :
    frame.script.skipIgnorable = frame.script :=
  congrArg ScriptFrame.script settled

theorem Settled.isIgnorable_head {frame : ScriptFrame} (settled : frame.Settled) {line : String} {rest : List String}
    (front : frame.script.ahead = line :: rest) : Script.isIgnorable line = false :=
  Script.ahead_skipIgnorable_head (settled.skipIgnorable ▸ front)

theorem Settled.isActive_eq_false {frame : ScriptFrame} (settled : frame.Settled) :
    frame.isActive = false ↔ ∀ line ∈ frame.script.ahead, Script.isIgnorable line = true := by
  cases front : frame.script.ahead with
  | nil => simp [ScriptFrame.isActive, settled.line, Script.next, front]
  | cons first rest => simp [ScriptFrame.isActive, settled.line, Script.next, front, settled.isIgnorable_head front]

/-- No act moves the reader other than line by line. -/
def Reading (source : String) (before after : Scene ScriptFrame σ) : Prop :=
  before.frame.script.Reads source → after.frame.script.Reads source

theorem Reading.trans {source : String} {first middle last : Scene ScriptFrame σ}
    (begun : Reading source first middle) (ended : Reading source middle last) : Reading source first last :=
  fun reads => ended (begun reads)

/-- A statement of any number of lines enters one call or none, and its lines leave the frame's own
line alone. -/
structure Ran (before after : Scene ScriptFrame σ) (entered : Bool) : Prop where
  line : after.frame.line = before.frame.line
  calls : entered = true → ∃ callee : CallFrame, callee.Sound ∧
    after.change = { before.change with entered := before.change.entered ++ [callee] }
  ends : entered = false → after.change = before.change

theorem reading_settling {source : String} {act : Act ScriptFrame σ Bool} (reading : Act.Within (Reading source) act) :
    Act.Within (Reading source) (settling act) := by
  intro scene reads
  have kept := reading scene reads
  unfold settling
  rw [Act.runOver_of]
  split <;> next seen =>
    rw [seen] at kept
    first | exact kept | exact kept.skip _

variable [Interpreter σ]

theorem reading_runStatement (source command : String) (ahead : List String) :
    Act.Within (Reading source) (runStatement command ahead : Act ScriptFrame σ Bool) := by
  have talks {α : Type} (conversation : Talk σ α) :
      Act.Within (Reading source) (Act.talk conversation : Act ScriptFrame σ α) := fun _ => id
  have read : Act.Within (Reading source) (Act.modifyFrame ScriptFrame.read : Act ScriptFrame σ Unit) :=
    fun _ reads => reads.advance
  have entered : Act.Within (Reading source) (descend : Act ScriptFrame σ Unit) := .bind .trans (talks _) fun _ _ => id
  have finished (response : Response) : Act.Within (Reading source) (finishStatement response : Act ScriptFrame σ Unit) :=
    .bind .trans (talks _) fun _ => talks _
  exact runStatement_closed (Act.Within (Reading source)) (.bind .trans) (fun _ (_ : True) => talks _) read (fun _ _ => id)
    entered finished (fun _ _ => id) trivial fun _ _ => trivial

theorem reading_advance (source : String) :
    Act.Within (Reading source) (advance : Act ScriptFrame σ Unit) := by
  intro scene reads
  have skipped : scene.frame.script.skipIgnorable.Reads source := reads.skip _
  change ((runFront scene.frame.script.skipIgnorable
    scene.frame.script.skipIgnorable.ahead).runOver scene).2.frame.script.Reads source
  cases scene.frame.script.skipIgnorable.ahead with
  | nil => exact skipped.advance
  | cons line rest => exact reading_settling (reading_runStatement source line rest) _ skipped.advance

/-- What a step makes of the script: it entered a call, or it is done with the statement. -/
inductive Steps (frame : ScriptFrame) : Scene ScriptFrame σ → Prop where
  | enters {scene callee} (sound : callee.Sound) (change : scene.change = ⟨[callee], 0, none⟩)
      (line : scene.frame.line = frame.line) : Steps frame scene
  | settles {scene} (settled : scene.frame.Settled) (change : scene.change = .none) : Steps frame scene

/-- How a statement goes well: it is read on as long as the interpreter asks for more, and then it enters a call or
ends. -/
inductive Runs : String → List String → Scene ScriptFrame σ → Bool → Scene ScriptFrame σ → Prop where
  | goesOn {command line rest before response channel entered after}
      (answered : (Talk.expecting command statementKinds).runOver before.channel = (.ok response, channel))
      (kind : response.kind = .continuation)
      (more : Runs line rest ⟨before.frame.read, before.change, channel⟩ entered after) :
      Runs command (line :: rest) before entered after
  | enters {command ahead before response channel after}
      (answered : (Talk.expecting command statementKinds).runOver before.channel = (.ok response, channel))
      (descended : descend.runOver { before with channel } = (.ok (), after)) : Runs command ahead before true after
  | finishes {command ahead before response channel after}
      (answered : (Talk.expecting command statementKinds).runOver before.channel = (.ok response, channel))
      (kind : response.kind ≠ .continuation)
      (finished : (finishStatement response).runOver { before with channel } = (.ok (), after)) :
      Runs command ahead before false after

theorem runStatement_runs {command : String} {ahead : List String} {before after : Scene ScriptFrame σ}
    {entered : Bool} (ran : (runStatement command ahead).runOver before = (.ok entered, after)) :
    Runs command ahead before entered after := by
  induction ahead generalizing command before with
  | nil =>
    unfold runStatement at ran
    obtain ⟨response, middle, asked, follows⟩ := Act.bind_ok ran
    obtain ⟨channel, answered, rfl⟩ := Act.talk_run asked
    split at follows
    · cases follows
    · obtain ⟨_, _, descended, done⟩ := Act.bind_ok follows
      cases done
      exact .enters answered descended
    next other _ =>
      obtain ⟨_, _, finished, done⟩ := Act.bind_ok follows
      cases done
      exact .finishes answered other finished
  | cons line rest ih =>
    unfold runStatement at ran
    obtain ⟨response, middle, asked, follows⟩ := Act.bind_ok ran
    obtain ⟨channel, answered, rfl⟩ := Act.talk_run asked
    split at follows
    next continued =>
      rw [Act.runOver_bind_modifyFrame] at follows
      exact .goesOn answered continued (ih follows)
    · obtain ⟨_, _, descended, done⟩ := Act.bind_ok follows
      cases done
      exact .enters answered descended
    next other _ =>
      obtain ⟨_, _, finished, done⟩ := Act.bind_ok follows
      cases done
      exact .finishes answered other finished

theorem Runs.ran {command : String} {ahead : List String} {before after : Scene ScriptFrame σ} {entered : Bool}
    (runs : Runs command ahead before entered after) : Ran before after entered := by
  induction runs with
  | goesOn _ _ _ ih => exact ⟨ih.line, ih.calls, ih.ends⟩
  | enters _ descended =>
    obtain ⟨callee, called, found, pushed⟩ := Act.bind_ok descended
    obtain ⟨channel, made, rfl⟩ := Act.talk_run found
    cases pushed
    exact ⟨rfl, fun _ => ⟨callee, CallFrame.ofCall_sound made, rfl⟩, nofun⟩
  | finishes _ _ finished =>
    obtain ⟨_, wrote, emitted, listed⟩ := Act.bind_ok finished
    obtain ⟨_, _, rfl⟩ := Act.talk_run emitted
    obtain ⟨_, _, rfl⟩ := Act.talk_run listed
    exact ⟨rfl, nofun, fun _ => rfl⟩

/-- How a step of the script goes: behind the last statement nothing is sent, and else the next one is run. -/
inductive Advances (frame : ScriptFrame) (channel : Channel σ) : Except Failure Unit → Scene ScriptFrame σ → Prop where
  | ends (front : frame.script.skipIgnorable.ahead = []) :
      Advances frame channel (.ok ()) ⟨⟨frame.script.skipIgnorable.advance, none⟩, .none, channel⟩
  | enters {line rest scene} (front : frame.script.skipIgnorable.ahead = line :: rest)
      (runs : Runs line rest ⟨{ frame with script := frame.script.skipIgnorable.advance }, .none, channel⟩ true scene) :
      Advances frame channel (.ok ()) scene
  | finishes {line rest scene} (front : frame.script.skipIgnorable.ahead = line :: rest)
      (runs : Runs line rest ⟨{ frame with script := frame.script.skipIgnorable.advance }, .none, channel⟩ false scene) :
      Advances frame channel (.ok ()) { scene with frame := scene.frame.settled }
  | fails {line rest scene failure} (front : frame.script.skipIgnorable.ahead = line :: rest)
      (ran : (runStatement line rest).runOver ⟨{ frame with script := frame.script.skipIgnorable.advance }, .none, channel⟩ =
        (.error failure, scene)) : Advances frame channel (.error failure) { scene with frame := scene.frame.settled }

theorem advance_cases {frame : ScriptFrame} {channel : Channel σ} {outcome : Except Failure Unit}
    {scene : Scene ScriptFrame σ}
    (ran : (advance : Act ScriptFrame σ Unit).runOver ⟨frame, .none, channel⟩ = (outcome, scene)) :
    Advances frame channel outcome scene := by
  change (runFront frame.script.skipIgnorable frame.script.skipIgnorable.ahead).runOver _ = _ at ran
  cases front : frame.script.skipIgnorable.ahead with
  | nil =>
    rw [front] at ran
    cases ran
    exact .ends front
  | cons line rest =>
    rw [front] at ran
    unfold runFront at ran
    rw [Act.runOver_bind_modifyFrame] at ran
    unfold settling at ran
    rw [Act.runOver_of] at ran
    split at ran <;> cases ran
    next entered => exact .enters front (runStatement_runs entered)
    next finished => exact .finishes front (runStatement_runs finished)
    next failed => exact .fails front failed

theorem advance_steps {frame : ScriptFrame} {channel : Channel σ} {scene : Scene ScriptFrame σ}
    (ran : (advance : Act ScriptFrame σ Unit).runOver ⟨frame, .none, channel⟩ = (.ok (), scene)) :
    Steps frame scene := by
  cases advance_cases ran with
  | ends front => exact .settles (settled_behind_end front) rfl
  | enters _ runs =>
    obtain ⟨callee, sound, change⟩ := runs.ran.calls rfl
    exact .enters sound change runs.ran.line
  | finishes _ runs => exact .settles (settled_settled _) (runs.ran.ends rfl)

/-- A statement that fails is passed like one that ran. -/
theorem advance_fails {frame : ScriptFrame} {channel : Channel σ} {scene : Scene ScriptFrame σ} {failure : Failure}
    (ran : (advance : Act ScriptFrame σ Unit).runOver ⟨frame, .none, channel⟩ = (.error failure, scene)) :
    scene.frame.Settled := by
  cases advance_cases ran with
  | fails => exact settled_settled _

end ScriptFrame
end RStepper
