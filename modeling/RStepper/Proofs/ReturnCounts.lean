import RStepper.Proofs.ConsoleGrammar
import RStepper.Proofs.Exchanges
import RStepper.Proofs.StepAccounting

/-! How many calls a response says have returned. It is asked twice, of different lines: the rules count trace exits to
tell one return from several, and the frame counts return lines to take callers off. A returning marker is both, the
return line two lines below the exit, and the counts agree where there is no exit and no return line besides. -/

namespace RStepper
open Text Marker

namespace Layout

theorem kind_entering {body : List Line} {layout : Layout} (found : entering? body = some layout) :
    layout.kind = .entering := by
  unfold entering? at found
  split at found <;> cases found
  rfl

theorem kind_reentered {body : List Line} {layout : Layout} (found : reentered? body = some layout) :
    layout.kind = .reentered := by
  unfold reentered? at found
  split at found
  · cases found
  · dsimp only at found
    split at found
    · split at found <;> cases found <;> rfl
    · cases found

theorem kind_returned {body : List Line} {layout : Layout} (found : returned? body = some layout) :
    layout.kind = .returned ∧ (traceExits body).length = 1 ∨
      layout.kind = .returnedMany ∧ 2 ≤ (traceExits body).length := by
  unfold returned? at found
  split at found
  next => cases found
  next first others seen =>
    have kind : layout.kind = if others.isEmpty then .returned else .returnedMany := by
      dsimp only at found
      split at found <;> cases found <;> rfl
    rw [kind, seen, List.length_cons]
    cases others with
    | nil => exact .inl ⟨rfl, rfl⟩
    | cons => exact .inr ⟨rfl, by simp⟩

theorem kind_paused {body : List Line} {layout : Layout} (found : paused? body = some layout) : layout.kind = .paused := by
  unfold paused? at found
  dsimp only at found
  split at found <;> cases found
  rfl

theorem kind_traced {body : List Line} {layout : Layout} (found : traced? body = some layout) :
    layout.kind = .tracedExpression ∨ layout.kind = .tracedBlock := by
  unfold traced? at found
  split at found <;> cases found
  dsimp only
  split
  · exact .inl rfl
  · exact .inr rfl

/-- Only two rules tell of a return. -/
theorem ofBody_returning {body : List Line} (kind : (ofBody body).kind ∈ [Kind.reentered, .returned, .returnedMany]) :
    reentered? body = some (ofBody body) ∨ returned? body = some (ofBody body) := by
  have ruled := ofBody_ruled body
  generalize ofBody body = layout at ruled kind ⊢
  cases ruled with
  | blank | printed => simp at kind
  | entering found => simp [kind_entering found] at kind
  | reentered found => exact .inl found
  | returned found => exact .inr found
  | paused found => simp [kind_paused found] at kind
  | traced found => rcases kind_traced found with traced | traced <;> simp [traced] at kind

theorem ofBody_pausing {body : List Line} (kind : (ofBody body).kind = .paused) : paused? body = some (ofBody body) := by
  have ruled := ofBody_ruled body
  generalize ofBody body = layout at ruled kind ⊢
  cases ruled with
  | blank | printed => cases kind
  | entering found => simp [kind_entering found] at kind
  | reentered found => simp [kind_reentered found] at kind
  | returned found => rcases kind_returned found with ⟨other, _⟩ | ⟨other, _⟩ <;> simp [other] at kind
  | paused found => exact found
  | traced found => rcases kind_traced found with traced | traced <;> simp [traced] at kind

/-- Every line with the one two lines below it. -/
def twoBelow (body : List Line) : List (Line × Line) :=
  body.zip (body.drop 2)

/-- A trace exit and, with one line between, the return line. -/
def returnMarkers (body : List Line) : Nat :=
  (twoBelow body).countP fun (upper, lower) => isTraceExit upper && isReturning lower

/-- The trace exits that have two lines below them and begin no returning marker. -/
def bareExits (body : List Line) : Nat :=
  (twoBelow body).countP fun (upper, lower) => isTraceExit upper && !isReturning lower

/-- The return lines that end no returning marker. -/
def bareReturns (body : List Line) : Nat :=
  (body.take 2).countP isReturning + (twoBelow body).countP fun (upper, lower) => isReturning lower && !isTraceExit upper

theorem twoBelow_fst (body : List Line) : (twoBelow body).map Prod.fst = body.take (body.length - 2) := by
  have least : min body.length (body.drop 2).length = body.length - 2 := by
    rw [List.length_drop]
    omega
  rw [twoBelow, List.zip_eq_zip_take_min, least, List.map_fst_zip]
  simp

theorem twoBelow_snd (body : List Line) : (twoBelow body).map Prod.snd = body.drop 2 := by
  rw [twoBelow, List.map_snd_zip]
  simp

theorem length_traceExits (body : List Line) :
    (traceExits body).length = (twoBelow body).countP fun (upper, _) => isTraceExit upper := by
  have room : (body.take (body.length - 2)).length = body.length - 2 := List.length_take_of_le (Nat.sub_le ..)
  have upper : traceExits body = (body.take (body.length - 2)).findIdxs isTraceExit := by
    rw [← filter_range, room, traceExits]
    apply List.filter_congr
    intro index inside
    rw [List.getElem?_take_of_lt (List.mem_range.mp inside)]
  calc (traceExits body).length
    _ = (body.take (body.length - 2)).countP isTraceExit := by rw [upper, List.length_findIdxs]
    _ = ((twoBelow body).map Prod.fst).countP isTraceExit := by rw [twoBelow_fst]
    _ = _ := List.countP_map

/-- An exit that leaves room for its return line either has it or is bare. -/
theorem traceExits_eq_markers (body : List Line) : (traceExits body).length = returnMarkers body + bareExits body := by
  rw [length_traceExits, List.countP_eq_countP_filter_add _ _ fun (_, lower) => isReturning lower, List.countP_filter,
    List.countP_filter]
  rfl

theorem returnLines_eq_markers (body : List Line) : body.countP isReturning = returnMarkers body + bareReturns body := by
  have lower : (body.drop 2).countP isReturning = (twoBelow body).countP fun (_, lower) => isReturning lower := by
    rw [← twoBelow_snd, List.countP_map]
    rfl
  have split : (twoBelow body).countP (fun (_, lower) => isReturning lower) =
      returnMarkers body + (twoBelow body).countP fun (upper, lower) => isReturning lower && !isTraceExit upper := by
    rw [List.countP_eq_countP_filter_add _ _ fun (upper, _) => isTraceExit upper, List.countP_filter, List.countP_filter]
    simp only [returnMarkers, Bool.and_comm]
  calc body.countP isReturning
    _ = (body.take 2).countP isReturning + (body.drop 2).countP isReturning := by
      rw [← List.countP_append, List.take_append_drop]
    _ = returnMarkers body + bareReturns body := by
      rw [lower, split, bareReturns]
      omega

end Layout

namespace Response

theorem rule_of_returning {text : String} {response : Response} (classified : classify text = some response)
    (kind : response.kind ∈ [Kind.reentered, .returned, .returnedMany]) :
    ∃ layout, layout.kind = response.kind ∧
      (Layout.reentered? response.body = some layout ∨ Layout.returned? response.body = some layout) := by
  have ruled := layout_eq_ofBody classified (by rintro same; simp [same] at kind)
  refine ⟨response.layout, (kind_eq_layout classified).symm, ?_⟩
  rw [kind_eq_layout classified, ruled] at kind
  rw [ruled]
  exact Layout.ofBody_returning kind

end Response

theorem Response.kind_of_exits {text : String} {response : Response} (classified : classify text = some response)
    (kind : response.kind ∈ [Kind.returned, .returnedMany]) :
    response.kind = .returned ∧ (Layout.traceExits response.body).length = 1 ∨
      response.kind = .returnedMany ∧ 2 ≤ (Layout.traceExits response.body).length := by
  obtain ⟨layout, same, found | found⟩ := rule_of_returning classified (List.mem_cons_of_mem _ kind)
  · rw [← same, Layout.kind_reentered found] at kind
    simp at kind
  · rw [← same]
    exact Layout.kind_returned found

/-- A trace exit without its return line counts as one, too. -/
theorem Response.bareExit_counted : ((classify "c\nTracing x on exit\na\nb\nBrowse[1]> ").map fun response =>
    (response.kind, Layout.returnMarkers response.body, Layout.bareExits response.body)) = some (.returned, 0, 1) := by
  decide +kernel

namespace CallFrame
variable {σ : Type} [Interpreter σ]

/-- A call that returns together with callers of its takes off one fewer than there are return lines. -/
theorem advance_drops {frame : CallFrame} {channel asked : Channel σ} {scene : Scene CallFrame σ} {response : Response}
    (active : frame.isActive = true) (replied : (Talk.execute stepCommand).runOver channel = (.ok response, asked))
    (kind : response.kind = .returnedMany)
    (ran : (advance : Act CallFrame σ Unit).runOver ⟨frame, .none, channel⟩ = (.ok (), scene)) :
    scene.change.dropped = response.returnLines - 1 := by
  obtain ⟨first, behind, answered, steps⟩ := advance_steps active ran
  rw [replied] at answered
  cases answered
  cases steps with
  | stays others _ => simp [kind] at others
  | enters other _ => simp [kind] at other
  | @returns many _ _ returned _ =>
    cases many with
    | false => simp [kind] at returned
    | true =>
      obtain ⟨_, _, _, classified⟩ := Talk.execute_ok replied
      rw [← Response.returnCount_eq classified]
      rfl
  | finishes other _ => simp [kind] at other

end CallFrame

namespace Response
open CallFrame Layout

/-- A response tells one return or several as its trace exits are one or several, which are its returning markers where
every exit has its return line. The callers that a step takes off are counted by return lines, the markers' and any other. -/
theorem exits_counted {text : String} {response : Response} (classified : classify text = some response) :
    let markers := returnMarkers response.body
    (response.kind = .returned → markers ≤ 1 ∧ (bareExits response.body = 0 → markers = 1)) ∧
    (response.kind = .returnedMany → (bareExits response.body = 0 → 2 ≤ markers) ∧
      ∀ {σ : Type} [Interpreter σ] (frame : CallFrame) (channel asked : Channel σ) (scene : Scene CallFrame σ),
        frame.isActive = true → (Talk.execute stepCommand).runOver channel = (.ok response, asked) →
        (advance : Act CallFrame σ Unit).runOver ⟨frame, .none, channel⟩ = (.ok (), scene) →
          scene.change.dropped = response.returnLines - 1 ∧
          response.returnLines = markers + bareReturns response.body ∧
          (bareReturns response.body = 0 → scene.change.dropped = markers - 1)) := by
  intro markers
  have exits : (traceExits response.body).length = markers + bareExits response.body := traceExits_eq_markers _
  have lines : response.returnLines = markers + bareReturns response.body := returnLines_eq_markers _
  refine ⟨fun kind => ?_, fun kind => ⟨fun whole => ?_, ?_⟩⟩
  · obtain ⟨_, one⟩ | ⟨other, _⟩ := kind_of_exits classified (by simp [kind])
    · exact ⟨by omega, fun whole => by omega⟩
    · rw [kind] at other
      cases other
  · obtain ⟨other, _⟩ | ⟨_, several⟩ := kind_of_exits classified (by simp [kind])
    · rw [kind] at other
      cases other
    · omega
  · intro σ _ frame channel asked scene active replied ran
    have drops := advance_drops active replied kind ran
    exact ⟨drops, lines, fun none => by omega⟩

/-- Two calls of one expression each return in one step, and the program prints between their returns. -/
def returnsAround (printed : String) : Scripted where
  rules := [⟨"Filter(", .said "character(0)\nBrowse[1]> " ""⟩]
  replies := [
    .said "debugging in: f()\nBrowse[2]> " "",
    .said "Tracing f() on entry\n[1] \"f\"\ndebug: g()\nBrowse[2]> " "",
    .said "debugging in: g()\nBrowse[3]> " "",
    .said "Tracing g() on entry\n[1] \"g\"\ndebug: 7\nBrowse[3]> " "",
    .said ("Tracing g() on exit\n[1] \"g\"\nexiting from: g()\n" ++ printed ++
      "Tracing f() on exit\n[1] \"f\"\nexiting from: f()\nBrowse[1]> ") ""]
  ruledSteps := 0

/-- Both calls are in progress. -/
def insideCalls (printed : String) : Channel Scripted :=
  (Debuggee.after "f()" (returnsAround printed) [.advance, .advance]).channel

private def counts (response : Response) : Kind × Nat × Nat × Nat :=
  (response.kind, returnMarkers response.body, bareExits response.body, bareReturns response.body)

private theorem returnsAround_run (printed : String) (bare : Nat)
    (both : ((Talk.execute stepCommand).runOver (insideCalls printed)).1.toOption.map counts =
        some (.returnedMany, 2, 0, bare) ∧
      (advance.runOver ⟨⟨.expression, "g", .paused 1⟩, .none, insideCalls printed⟩).1.toOption = some ()) :
    ∃ response asked scene, (Talk.execute stepCommand).runOver (insideCalls printed) = (.ok response, asked) ∧
      advance.runOver ⟨⟨.expression, "g", .paused 1⟩, .none, insideCalls printed⟩ = (.ok (), scene) ∧
      response.kind = .returnedMany ∧ returnMarkers response.body = 2 ∧ bareExits response.body = 0 ∧
      bareReturns response.body = bare := by
  obtain ⟨counted, ran⟩ := both
  obtain ⟨response, answered, seen⟩ := Option.map_eq_some_iff.mp counted
  obtain ⟨kind, seen⟩ := Prod.mk.inj seen
  obtain ⟨markers, seen⟩ := Prod.mk.inj seen
  obtain ⟨exits, bare⟩ := Prod.mk.inj seen
  exact ⟨response, _, _, eq_ok_of_toOption answered, eq_ok_of_toOption ran, kind, markers, exits, bare⟩

/-- Output between the returns is not counted. -/
theorem returnsAround_counted : ∃ response asked scene,
    (Talk.execute stepCommand).runOver (insideCalls "7\n") = (.ok response, asked) ∧
      advance.runOver ⟨⟨.expression, "g", .paused 1⟩, .none, insideCalls "7\n"⟩ = (.ok (), scene) ∧
      response.kind = .returnedMany ∧ returnMarkers response.body = 2 ∧ scene.change.dropped = 1 := by
  obtain ⟨response, asked, scene, replied, ran, kind, markers, _, bare⟩ :=
    returnsAround_run "7\n" 0 (by decide +kernel)
  obtain ⟨_, _, _, classified⟩ := Talk.execute_ok replied
  obtain ⟨_, _, dropped⟩ := ((exits_counted classified).2 kind).2 _ _ _ _ rfl replied ran
  exact ⟨response, asked, scene, replied, ran, kind, markers, by rw [dropped bare, markers]⟩

/-- A line that the program prints is taken for a return line. -/
theorem printedLine_counted : ∃ response asked scene,
    (Talk.execute stepCommand).runOver (insideCalls "exiting from: the loop\n") = (.ok response, asked) ∧
      advance.runOver ⟨⟨.expression, "g", .paused 1⟩, .none, insideCalls "exiting from: the loop\n"⟩ = (.ok (), scene) ∧
      response.kind = .returnedMany ∧ returnMarkers response.body = 2 ∧ bareExits response.body = 0 ∧
      scene.change.dropped = 2 := by
  obtain ⟨response, asked, scene, replied, ran, kind, markers, exits, bare⟩ :=
    returnsAround_run "exiting from: the loop\n" 1 (by decide +kernel)
  refine ⟨response, asked, scene, replied, ran, kind, markers, exits, ?_⟩
  have lines : response.returnLines = returnMarkers response.body + bareReturns response.body := returnLines_eq_markers _
  rw [advance_drops rfl replied kind ran, lines, markers, bare]

end Response
end RStepper
