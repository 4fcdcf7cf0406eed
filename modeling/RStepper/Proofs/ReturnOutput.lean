import RStepper.Proofs.AnnouncedLines
import RStepper.Proofs.LoopHeaders

/-! What is printed when a call returns. A step that ends a call prints the output of the response at once and whole, before
it looks where the caller goes on. A response has one output: what the program printed before the first return or, if there
is nothing, behind the last. -/

namespace RStepper
open Text Marker
variable {σ : Type}

def Record.ofOutput (text : String) : List Record :=
  if text = "" then [] else [⟨text, false⟩]

namespace Channel

theorem carries_records [Interpreter σ] :
    Carries fun before after : Channel σ => before.records <+: after.records where
  refl _ := List.prefix_rfl
  trans := List.IsPrefix.trans
  prints text channel := by
    rw [records_write]
    exact List.prefix_append ..
  asks command channel := by
    rcases Talk.behind_execute command channel with same | ⟨diagnostics, wrote⟩
    · have kept : ((Talk.execute command).runOver channel).2.records = channel.records := by
        rw [same, records_ask]
      exact kept ▸ List.prefix_rfl
    · rw [wrote, records_write, records_ask]
      exact List.prefix_append ..

end Channel

namespace CallFrame
variable [Interpreter σ]

theorem advance_of_returned {frame : CallFrame} {channel asked : Channel σ} {response : Response}
    (active : frame.isActive = true) (replied : (Talk.execute stepCommand).runOver channel = (.ok response, asked))
    (kind : response.kind ∈ [Kind.returned, .returnedMany]) : ∃ many,
      (advance : Act CallFrame σ Unit).runOver ⟨frame, .none, channel⟩ =
        (leave response many).runOver ⟨frame, .none, asked⟩ := by
  rw [runOver_advance active, replied]
  dsimp only
  rw [follow, Act.runOver_bind_frame]
  simp only [List.mem_cons, List.not_mem_nil, or_false] at kind
  rcases kind with kind | kind
  · exact ⟨false, by simp only [kind]⟩
  · exact ⟨true, by simp only [kind]⟩

theorem channel_leave (response : Response) (many : Bool) (frame : CallFrame) (channel : Channel σ) :
    ((leave response many).runOver ⟨frame, .none, channel⟩).2.channel =
      ((returnLine response).runOver (channel.write ⟨response.output, false⟩)).2 := by
  rw [runOver_leave]
  split
  next seen => rw [seen]
  next seen => rw [seen]

theorem records_returnLine (response : Response) (channel : Channel σ) :
    channel.records <+: ((returnLine response).runOver channel).2.records := by
  have judgement : Judgement Means.all fun (before : Channel σ) _ after => before.records <+: after.records :=
    Channel.carries_records.judgement
  exact (built_returnLine rfl response Unit ⟨(), .none, channel⟩).judged judgement

/-- Where no loop header is announced, there is nothing to step past. -/
theorem returnLine_clear {response : Response} (kind : response.kind ∈ [Kind.returned, .returnedMany])
    (clear : response.announcesLoop = false) (channel : Channel σ) :
    ∃ line, (returnLine response).runOver channel = (.ok line, channel) := by
  have announced : (Position.announcementAfterReturns? response.text.toList).any Position.isLoopHeader = false := by
    simp only [List.mem_cons, List.not_mem_nil, or_false] at kind
    rcases kind with kind | kind <;> simpa [Response.announcesLoop, Response.announcement?, kind] using clear
  unfold returnLine
  simp only [announced]
  exact ⟨_, rfl⟩

/-- Whatever comes of a step that is answered by a return, it prints the output of the response first, and nothing else
unless it goes past the head of a loop. -/
theorem returned_prints {frame : CallFrame} {channel asked : Channel σ} {scene : Scene CallFrame σ} {response : Response}
    {outcome : Except Failure Unit} (active : frame.isActive = true)
    (replied : (Talk.execute stepCommand).runOver channel = (.ok response, asked))
    (kind : response.kind ∈ [Kind.returned, .returnedMany])
    (ran : (advance : Act CallFrame σ Unit).runOver ⟨frame, .none, channel⟩ = (outcome, scene)) :
    ∃ more, scene.channel.records = asked.records ++ Record.ofOutput response.output ++ more ∧
      (response.announcesLoop = false → outcome = .ok () ∧ more = []) := by
  obtain ⟨many, left⟩ := advance_of_returned active replied kind
  rw [ran] at left
  have behind := channel_leave response many frame asked
  rw [← left] at behind
  dsimp only at behind
  have written : (asked.write ⟨response.output, false⟩).records = asked.records ++ Record.ofOutput response.output :=
    asked.records_write _
  obtain ⟨more, kept⟩ := records_returnLine response (asked.write ⟨response.output, false⟩)
  rw [written, ← behind] at kept
  refine ⟨more, kept.symm, ?_⟩
  intro clear
  obtain ⟨line, silent⟩ := returnLine_clear kind clear (asked.write ⟨response.output, false⟩)
  rw [runOver_leave, silent] at left
  rw [silent] at behind
  rw [behind, written] at kept
  exact ⟨congrArg Prod.fst left, by simpa using kept⟩

end CallFrame

/-- The output of a response that tells of returns: the lines before them or, if there are none, those behind them. -/
theorem Response.output_of_returns {text : String} {response : Response} {before output pause : List Line} {step : Return}
    {steps : List Return} (classified : classify text = some response)
    (kind : response.kind ∈ [Kind.returned, .returnedMany])
    (lines : response.body = before ++ Return.report (step :: steps) ++ output ++ pause) (plain : Plain before)
    (printed : Plain output) (announced : pause.head?.all isCurrentLine = true) (exits : Silent isTraceExit pause) :
    response.output = String.ofList (joinLines (if before.isEmpty then output else before)) := by
  have first : pause.findIdx isCurrentLine = 0 := by
    cases pause with
    | nil => rfl
    | cons mark statement =>
      have current : isCurrentLine mark = true := announced
      rw [List.findIdx_cons, current, cond_true]
  have found := rule_of_returned classified kind
  rw [lines, Layout.returned?_around step steps plain printed first exits, Option.some.injEq] at found
  rw [output_eq_block classified, ← found, lines, block_aroundReturns]

namespace CallFrame
variable [Interpreter σ]

/-- When calls return, the program's lines before the returns are printed or, if there are none, its lines behind them. -/
theorem return_prints {frame : CallFrame} {channel asked : Channel σ} {scene : Scene CallFrame σ} {response : Response}
    {outcome : Except Failure Unit} {before output pause : List Line} {step : Return} {steps : List Return}
    (active : frame.isActive = true) (replied : (Talk.execute stepCommand).runOver channel = (.ok response, asked))
    (kind : response.kind ∈ [Kind.returned, .returnedMany])
    (lines : response.body = before ++ Return.report (step :: steps) ++ output ++ pause) (plain : Plain before)
    (printed : Plain output) (announced : pause.head?.all isCurrentLine = true) (exits : Silent isTraceExit pause)
    (ran : (advance : Act CallFrame σ Unit).runOver ⟨frame, .none, channel⟩ = (outcome, scene)) :
    let shown := String.ofList (joinLines (if before.isEmpty then output else before))
    ∃ more, scene.channel.records = asked.records ++ Record.ofOutput shown ++ more ∧
      (response.announcesLoop = false → outcome = .ok () ∧ more = []) := by
  obtain ⟨_, _, _, classified⟩ := Talk.execute_ok replied
  intro shown
  have output : response.output = shown := Response.output_of_returns classified kind lines plain printed announced exits
  rw [← output]
  exact returned_prints active replied kind ran

/-- A call of `g` returns in one step, and the console shows more above and below. -/
def aroundInner (above below : String) : Channel Scripted := .fresh {
  rules := []
  replies := [.said (above ++ "Tracing g() on exit\n[1] \"g\"\nexiting from: g()\n" ++ below ++ "Browse[1]> ") ""]
  ruledSteps := 0 }

def innerCall : CallFrame := ⟨.expression, "g", .paused 1⟩

def innerReturn : Return :=
  ⟨"Tracing g() on exit".toList, "[1] \"g\"".toList, "exiting from: g()".toList, by decide, by decide, by decide⟩

private theorem aroundInner_run (above below : String) (kind : Kind) (body : List Line) (records : List Record)
    (seen : ((Talk.execute stepCommand).runOver (aroundInner above below)).1.toOption.map
          (fun response => (response.kind, response.body, response.announcesLoop)) = some (kind, body, false) ∧
      ((Talk.execute stepCommand).runOver (aroundInner above below)).2.records = [] ∧
      (advance.runOver ⟨innerCall, .none, aroundInner above below⟩).1.toOption = some () ∧
      (advance.runOver ⟨innerCall, .none, aroundInner above below⟩).2.channel.records = records) :
    ∃ response asked scene, (Talk.execute stepCommand).runOver (aroundInner above below) = (.ok response, asked) ∧
      response.kind = kind ∧ response.body = body ∧ response.announcesLoop = false ∧ asked.records = [] ∧
      advance.runOver ⟨innerCall, .none, aroundInner above below⟩ = (.ok (), scene) ∧
      scene.channel.records = records := by
  obtain ⟨told, silent, ran, written⟩ := seen
  obtain ⟨response, answered, same⟩ := Option.map_eq_some_iff.mp told
  obtain ⟨kind, same⟩ := Prod.mk.inj same
  obtain ⟨body, clear⟩ := Prod.mk.inj same
  exact ⟨response, _, _, eq_ok_of_toOption answered, kind, body, clear, silent, eq_ok_of_toOption ran, written⟩

theorem printedAbove_prints :
    let channel := aroundInner "printing\n" "[1] 7\ndebug at #3: y\n"
    ∃ response asked scene, (Talk.execute stepCommand).runOver channel = (.ok response, asked) ∧ response.kind = .returned ∧
      asked.records = [] ∧ advance.runOver ⟨innerCall, .none, channel⟩ = (.ok (), scene) ∧
      scene.channel.records = [⟨"printing", false⟩] := by
  intro channel
  obtain ⟨response, asked, scene, replied, kind, body, clear, silent, ran, _⟩ :=
    aroundInner_run "printing\n" "[1] 7\ndebug at #3: y\n" .returned
      (["printing".toList] ++ Return.report [innerReturn] ++ ["[1] 7".toList] ++ ["debug at #3: y".toList])
      [⟨"printing", false⟩] (by decide +kernel)
  obtain ⟨more, written, rest⟩ := return_prints rfl replied (by simp [kind]) body (plain_singleton (by decide))
    (plain_singleton (by decide)) (by decide) (silent_cons.mpr ⟨by decide, .nil _⟩) ran
  obtain ⟨_, rfl⟩ := rest clear
  refine ⟨response, asked, scene, replied, kind, silent, ran, ?_⟩
  rw [written, silent]
  decide +kernel

/-- What the program prints behind a return is not shown if it printed before, nor if the announced statement shows a trace
exit. -/
theorem printedBelow_lost :
    let both := aroundInner "printing\n" "[1] 7\n"
    let quoting := aroundInner "" "[1] 7\ndebug at #3: x <- \"\nTracing y on exit\n\nz\"\n"
    (∃ response asked scene, (Talk.execute stepCommand).runOver both = (.ok response, asked) ∧ response.kind = .returned ∧
      response.body = ["printing".toList] ++ Return.report [innerReturn] ++ ["[1] 7".toList] ++ [] ∧
      Plain ["printing".toList] ∧ Plain ["[1] 7".toList] ∧
      advance.runOver ⟨innerCall, .none, both⟩ = (.ok (), scene) ∧ scene.channel.records = [⟨"printing", false⟩]) ∧
    ∃ response asked scene, (Talk.execute stepCommand).runOver quoting = (.ok response, asked) ∧
      response.kind = .returnedMany ∧
      response.body = [] ++ Return.report [innerReturn] ++ ["[1] 7".toList] ++
        ["debug at #3: x <- \"".toList, "Tracing y on exit".toList, [], "z\"".toList] ∧
      advance.runOver ⟨innerCall, .none, quoting⟩ = (.ok (), scene) ∧ scene.channel.records = [] := by
  intro both quoting
  constructor
  · obtain ⟨response, asked, scene, replied, kind, body, _, _, ran, written⟩ :=
      aroundInner_run "printing\n" "[1] 7\n" .returned
        (["printing".toList] ++ Return.report [innerReturn] ++ ["[1] 7".toList] ++ [])
        [⟨"printing", false⟩] (by decide +kernel)
    exact ⟨response, asked, scene, replied, kind, body, plain_singleton (by decide), plain_singleton (by decide), ran,
      written⟩
  · obtain ⟨response, asked, scene, replied, kind, body, _, _, ran, written⟩ :=
      aroundInner_run "" "[1] 7\ndebug at #3: x <- \"\nTracing y on exit\n\nz\"\n" .returnedMany
        ([] ++ Return.report [innerReturn] ++ ["[1] 7".toList] ++
          ["debug at #3: x <- \"".toList, "Tracing y on exit".toList, [], "z\"".toList]) [] (by decide +kernel)
    exact ⟨response, asked, scene, replied, kind, body, ran, written⟩

end CallFrame
end RStepper
