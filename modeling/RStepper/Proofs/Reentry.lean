import RStepper.Proofs.ReturnCounts

/-! A call that returns into the next one. The frame of the innermost call becomes the frame of the call that was entered,
and no other frame is touched, so the stack stays in step with the interpreter's when one call returned and in no other
case: callers that returned as well are still on it. -/

namespace RStepper
open Text Marker
variable {σ : Type}

namespace Layout

/-- Where the rule for re-entries sees the next call entered. -/
def entryLine? (body : List Line) : Option Nat :=
  ((List.range body.length).find? (isReturnWithSequel body)).map fun index => indexFrom isEntering (index + 3) body

/-- The return that the rule found stands above the line that enters. -/
theorem entryLine_of_reentered {body : List Line} {layout : Layout} (found : reentered? body = some layout) :
    ∃ entry, entryLine? body = some entry ∧ entry < body.length ∧ 0 < (body.take entry).countP isReturning := by
  unfold reentered? at found
  unfold entryLine?
  cases seen : (List.range body.length).find? (isReturnWithSequel body) with
  | none => simp [seen] at found
  | some index =>
    refine ⟨_, rfl, ?_, ?_⟩
    · simp only [seen] at found
      split at found
      next inside => exact inside
      next => cases found
    · have sequel : isReturnWithSequel body index = true := List.find?_some seen
      obtain ⟨_, returns⟩ := Bool.and_eq_true_iff.mp sequel
      obtain ⟨line, row, passes⟩ := (Option.any_eq_true ..).mp returns
      have above : index + 2 < indexFrom isEntering (index + 3) body := by
        unfold indexFrom
        omega
      have kept : (body.take (indexFrom isEntering (index + 3) body))[index + 2]? = some line := by
        rw [List.getElem?_take_of_lt above, row]
      exact List.countP_pos_iff.mpr ⟨line, List.mem_of_getElem? kept, passes⟩

end Layout

/-- The return lines above the line that enters the next call. -/
def Response.returnsBeforeEntry (response : Response) : Nat :=
  (response.body.take ((Layout.entryLine? response.body).getD 0)).countP isReturning

theorem Response.returnsBeforeEntry_pos {text : String} {response : Response} (classified : classify text = some response)
    (kind : response.kind = .reentered) : 1 ≤ response.returnsBeforeEntry := by
  obtain ⟨layout, same, found | found⟩ := rule_of_returning classified (by simp [kind])
  · obtain ⟨entry, line, _, some⟩ := Layout.entryLine_of_reentered found
    rwa [returnsBeforeEntry, line, Option.getD_some]
  · rcases Layout.kind_returned found with ⟨other, _⟩ | ⟨other, _⟩ <;> simp [same, kind] at other

namespace CallFrame

def SameName (before after : Scene CallFrame σ) : Prop :=
  after.frame.name = before.frame.name

theorem SameName.trans {first middle last : Scene CallFrame σ} (begun : SameName first middle)
    (ended : SameName middle last) : SameName first last :=
  Eq.trans ended begun

theorem sameName_talk {α : Type} (conversation : Talk σ α) :
    Act.Within SameName (Act.talk conversation : Act CallFrame σ α) :=
  fun _ => rfl

@[simp] theorem atLine?_name (frame : CallFrame) (line : Option Int) : (frame.atLine? line).name = frame.name := by
  cases line with
  | none => rfl
  | some number =>
    change (frame.atLine number).name = frame.name
    unfold atLine
    split <;> rfl

variable [Interpreter σ]

theorem sameName_pauseAt (response : Response) : Act.Within SameName (pauseAt response : Act CallFrame σ Unit) := by
  intro scene
  change SameName scene (pauseIn response scene).2
  fun_induction pauseIn response scene with
  | case1 response scene here loops next channel stepped ih =>
    have moved : SameName scene { here with channel } := atLine?_name _ _
    exact moved.trans ih
  | case2 response scene here loops failure channel stepped => exact atLine?_name _ _
  | case3 response scene here => exact atLine?_name _ _

theorem sameName_enter : Act.Within SameName (enter : Act CallFrame σ Unit) := by
  intro scene
  unfold enter
  have own : Act.Within SameName (Act.frame : Act CallFrame σ CallFrame) := fun _ => rfl
  refine Act.Within.bind .trans own (fun frame => ?_) scene
  cases frame.shape with
  | block =>
    exact .bind .trans (sameName_talk _) fun response =>
      .bind .trans (sameName_pauseAt response) fun _ => sameName_talk _
  | expression =>
    have moved : Act.Within SameName (Act.modifyFrame fun frame => { frame with status := .paused 1 } : Act CallFrame σ Unit) :=
      fun _ => rfl
    exact .bind .trans moved fun _ => sameName_talk _

theorem reenter_ok {response : Response} {scene later : Scene CallFrame σ}
    (ran : (reenter response).runOver scene = (.ok (), later)) :
    ∃ entry found, Entry.find.runOver (scene.channel.write ⟨response.output, false⟩) = (.ok entry, found) ∧
      entry.shape = scene.frame.shape ∧ later.frame.name = entry.name := by
  unfold reenter at ran
  rw [Act.runOver_bind_talk, Talk.runOver_emit] at ran
  obtain ⟨entry, middle, found, rest⟩ := Act.bind_ok ran
  obtain ⟨channel, probed, rfl⟩ := Act.talk_run found
  rw [Act.runOver_bind_frame] at rest
  split at rest
  · cases rest
  next same =>
    rw [Act.runOver_bind_modifyFrame] at rest
    exact ⟨entry, channel, probed, not_not.mp same, sameName_enter.of_run rest⟩

theorem advance_reenters {top : CallFrame} {channel asked : Channel σ} {scene : Scene CallFrame σ} {response : Response}
    (active : top.isActive = true) (replied : (Talk.execute stepCommand).runOver channel = (.ok response, asked))
    (kind : response.kind = .reentered)
    (ran : (advance : Act CallFrame σ Unit).runOver ⟨top, .none, channel⟩ = (.ok (), scene)) :
    ∃ entry found, Entry.find.runOver (asked.write ⟨response.output, false⟩) = (.ok entry, found) ∧
      entry.shape = top.shape ∧ scene.frame.name = entry.name ∧ Stays ⟨top, .none, asked⟩ scene := by
  rw [runOver_advance active, replied] at ran
  dsimp only at ran
  unfold follow at ran
  rw [Act.runOver_bind_frame] at ran
  simp only [kind] at ran
  obtain ⟨entry, found, probed, shape, name⟩ := reenter_ok ran
  exact ⟨entry, found, probed, shape, name, (stays_reenter response).of_run ran⟩

end CallFrame

/-- So many of the innermost calls returned and one of that name was entered in their place. -/
structure Stack.Replaces (count : Nat) (name : String) (before after : Stack) : Prop where
  depth : after.depth + count = before.depth + 1
  frames : ∃ call : CallFrame, call.name = name ∧ call.isActive = true ∧
    after.frames = .call call :: before.frames.drop count

namespace Debuggee
variable [Interpreter σ]

theorem stepCall_reenters {source : String} {debuggee later : Debuggee σ} {top : CallFrame} {below : List CallFrame}
    {response : Response} {asked : Channel σ} (calls : debuggee.stack.calls = top :: below)
    (valid : debuggee.stack.Valid source) (stepped : debuggee.stepCall top below = (.ok (), later))
    (replied : (Talk.execute stepCommand).runOver debuggee.channel = (.ok response, asked))
    (kind : response.kind = .reentered) :
    ∃ entry found, Entry.find.runOver (asked.write ⟨response.output, false⟩) = (.ok entry, found) ∧
      debuggee.stack.Replaces 1 entry.name later.stack ∧ later.stack.lastResult = debuggee.stack.lastResult := by
  have sound : top.Sound := valid.calls top (by simp [calls])
  obtain ⟨scene, ran, rfl⟩ := stepCall_went stepped
  obtain ⟨entry, found, probed, _, name, same⟩ := CallFrame.advance_reenters sound.isActive replied kind ran
  have active : scene.frame.isActive = true := (same.sound sound).isActive
  have kept : scene.change = .none := same.change
  rw [kept, StackChange.none, Stack.changed_active _ active]
  refine ⟨entry, found, probed, ⟨?_, scene.frame, name, active, ?_⟩, rfl⟩
  · simp [Stack.depth, calls]
  · simp [Stack.frames, calls]

/-- Where a step with calls in progress is answered by a re-entry and goes well, the innermost frame, and it alone, is
the next call's. So the callers that returned are gone exactly if there are none: if one return line stands above the
line that enters. -/
theorem reentry_replaces {source : String} {interpreter : σ} {operations : List Operation} {top : CallFrame}
    {below : List CallFrame} {moved : Bool} {later : Debuggee σ} {response : Response} {asked : Channel σ}
    (advanced : (after source interpreter operations).advance = (.ok moved, later))
    (calls : (after source interpreter operations).stack.calls = top :: below)
    (replied : (Talk.execute stepCommand).runOver (after source interpreter operations).channel = (.ok response, asked))
    (kind : response.kind = .reentered) :
    let before := (after source interpreter operations).stack
    let returned := response.returnsBeforeEntry
    ∃ entry found, Entry.find.runOver (asked.write ⟨response.output, false⟩) = (.ok entry, found) ∧
      before.Replaces 1 entry.name later.stack ∧ later.stack.lastResult = before.lastResult ∧
      1 ≤ returned ∧ (before.Replaces returned entry.name later.stack ↔ returned = 1) := by
  intro before returned
  have valid := after_valid source interpreter operations
  have next : (after source interpreter operations).stack.hasNext = true := by
    simpa only [Stack.hasNext, calls] using valid.top_active calls
  unfold advance at advanced
  rw [if_pos next, calls] at advanced
  dsimp only at advanced
  rcases stepped : (after source interpreter operations).stepCall top below with ⟨_ | _, behind⟩ <;>
    rw [stepped] at advanced <;> cases advanced
  obtain ⟨entry, found, probed, replaces, kept⟩ := stepCall_reenters calls valid stepped replied kind
  obtain ⟨_, _, _, classified⟩ := Talk.execute_ok replied
  refine ⟨entry, found, probed, replaces, kept, Response.returnsBeforeEntry_pos classified kind, ?_, ?_⟩
  · intro all
    exact Nat.add_left_cancel (all.depth.trans replaces.depth.symm)
  · intro one
    rwa [one]

/-- The innermost of two calls returns into a third, alone or with its caller. -/
def returnsInto (returns : String) : Scripted where
  rules := [⟨"Filter(", .said "character(0)\nBrowse[1]> " ""⟩]
  replies := [
    .said "debugging in: f()\nBrowse[2]> " "",
    .said "Tracing f() on entry\n[1] \"f\"\ndebug: g()\nBrowse[2]> " "",
    .said "debugging in: g()\nBrowse[3]> " "",
    .said "Tracing g() on entry\n[1] \"g\"\ndebug: 7\nBrowse[3]> " "",
    .said ("Tracing g() on exit\n[1] \"g\"\nexiting from: g()\n" ++ returns ++
      "debugging in: h()\ndebug: 8\nBrowse[2]> ") "",
    .said "Tracing h() on entry\n[1] \"h\"\ndebug: 8\nBrowse[2]> " ""]
  ruledSteps := 0

/-- A step replaces the inner one of two calls, with so many return lines above the line that enters. -/
private def Reenters (before : Debuggee Scripted) (count : Nat) : Prop :=
  before.stack.calls = [⟨.expression, "g", .paused 1⟩, ⟨.expression, "f", .paused 1⟩] ∧
    before.advance.1.toOption = some true ∧
    before.advance.2.stack.calls = [⟨.expression, "h", .paused 1⟩, ⟨.expression, "f", .paused 1⟩] ∧
    ((Talk.execute stepCommand).runOver before.channel).1.toOption.map (fun response =>
      (response.kind, response.returnsBeforeEntry)) = some (.reentered, count)

private instance (before : Debuggee Scripted) (count : Nat) : Decidable (Reenters before count) :=
  inferInstanceAs (Decidable (_ ∧ _ ∧ _ ∧ _))

private theorem Reenters.response {before : Debuggee Scripted} {count : Nat} (reenters : Reenters before count) :
    ∃ response asked, (Talk.execute stepCommand).runOver before.channel = (.ok response, asked) ∧
      response.kind = .reentered ∧ response.returnsBeforeEntry = count := by
  obtain ⟨response, answered, seen⟩ := Option.map_eq_some_iff.mp reenters.2.2.2
  obtain ⟨kind, count⟩ := Prod.mk.inj seen
  exact ⟨response, _, eq_ok_of_toOption answered, kind, count⟩

theorem returnsInto_replaces :
    (after "f(); h()" (returnsInto "") [.advance, .advance]).stack.calls =
      [⟨.expression, "g", .paused 1⟩, ⟨.expression, "f", .paused 1⟩] ∧
    ∃ response asked later entry,
      (Talk.execute stepCommand).runOver (after "f(); h()" (returnsInto "") [.advance, .advance]).channel =
        (.ok response, asked) ∧
      (after "f(); h()" (returnsInto "") [.advance, .advance]).advance = (.ok true, later) ∧
      response.kind = .reentered ∧ response.returnsBeforeEntry = 1 ∧
      (after "f(); h()" (returnsInto "") [.advance, .advance]).stack.Replaces 1 entry later.stack := by
  have reenters : Reenters (after "f(); h()" (returnsInto "") [.advance, .advance]) 1 := by decide +kernel
  obtain ⟨response, asked, replied, kind, one⟩ := reenters.response
  obtain ⟨calls, went, _⟩ := reenters
  have advanced := eq_ok_of_toOption went
  obtain ⟨entry, _, _, _, _, _, inStep⟩ := reentry_replaces advanced calls replied kind
  have replaces := inStep.mpr one
  rw [one] at replaces
  exact ⟨calls, response, asked, _, entry.name, replied, advanced, kind, one, replaces⟩

/-- The caller returned too, and stays below the call that was entered. -/
theorem returnedCaller_stays :
    let before := after "f(); h()" (returnsInto "Tracing f() on exit\n[1] \"f\"\nexiting from: f()\n") [.advance, .advance]
    before.stack.calls = [⟨.expression, "g", .paused 1⟩, ⟨.expression, "f", .paused 1⟩] ∧
      before.advance = (.ok true, before.advance.2) ∧
      (∃ response asked, (Talk.execute stepCommand).runOver before.channel = (.ok response, asked) ∧
        response.kind = .reentered ∧ response.returnsBeforeEntry = 2) ∧
      before.advance.2.stack.calls = [⟨.expression, "h", .paused 1⟩, ⟨.expression, "f", .paused 1⟩] ∧
      ∀ name, ¬ before.stack.Replaces 2 name before.advance.2.stack := by
  intro before
  have reenters : Reenters before 2 := by decide +kernel
  have answered := reenters.response
  obtain ⟨calls, went, left, _⟩ := reenters
  refine ⟨calls, eq_ok_of_toOption went, answered, left, fun name replaces => ?_⟩
  have depth := replaces.depth
  rw [Stack.depth, Stack.depth, calls, left] at depth
  cases depth

end Debuggee
end RStepper
