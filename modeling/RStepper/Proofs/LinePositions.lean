import RStepper.Proofs.ResponseRange

/-! The rules once more, over all lines of a response and with every line looked up by its position. A lookup
behind the last line ends the whole in `none`; no complete response gets there. -/

namespace RStepper.Indexed
open Text Marker

/-- A kind and the bounds of the output. Position 0 is the echoed command, the last one the prompt. -/
abbrev Bounds := Kind × Nat × Nat

def look (test : Line → Bool) (lines : List Line) (index : Nat) : Option Bool :=
  lines[index]?.map test

/-- The first of `count` positions from `start` on that passes, or the position behind them. -/
def scan (passes : Nat → Option Bool) (start : Nat) : Nat → Option Nat
  | 0 => some start
  | count + 1 => do if ← passes start then pure start else scan passes (start + 1) count

/-- The last of `count` positions from `start` on that passes. -/
def scanBack (passes : Nat → Option Bool) (start : Nat) : Nat → Option (Option Nat)
  | 0 => some none
  | count + 1 => do if ← passes (start + count) then pure (some (start + count)) else scanBack passes start count

/-- All of `count` positions from `start` on that pass. -/
def collect (passes : Nat → Option Bool) (start : Nat) : Nat → Option (List Nat)
  | 0 => some []
  | count + 1 => do
    let here ← passes start
    let more ← collect passes (start + 1) count
    pure (if here then start :: more else more)

def entering? (lines : List Line) : Option (Option Bounds) := do
  if ← look isEntering lines 1 then pure (some (.entering, 1, 1)) else pure none

def isReturn (lines : List Line) (index : Nat) : Option Bool := do
  if ← look isTraceExit lines index then look isReturning lines (index + 2) else pure false

def reentered? (lines : List Line) : Option (Option Bounds) := do
  let n := lines.length
  let index ← scan (isReturn lines) 1 (n - 5 - 1)
  if index < n - 5 then
    let entry ← scan (look isEntering lines) (index + 3) (n - (index + 3))
    if entry < n then
      if 1 < index then pure (some (.reentered, 1, index))
      else
        let last ← scanBack (look isReturning lines) (index + 2) (entry - (index + 2))
        pure (some (.reentered, last.getD (index + 2) + 1, entry))
    else pure none
  else pure none

/-- The first line from `start` on that passes, or the prompt's position. -/
def find (test : Line → Bool) (lines : List Line) (start : Nat) : Option Nat :=
  scan (look test lines) start (lines.length - 1 - start)

def returned? (lines : List Line) : Option (Option Bounds) := do
  let n := lines.length
  match ← collect (look isTraceExit lines) 1 (n - 3 - 1) with
  | [] => pure none
  | first :: others =>
    let kind := if others.isEmpty then Kind.returned else Kind.returnedMany
    if first = 1 then
      let back ← find isReturning lines (others.getLastD first + 2)
      let stop ← find isCurrentLine lines (back + 1)
      pure (some (kind, back + 1, stop))
    else pure (some (kind, 1, first))

def paused? (lines : List Line) : Option (Option Bounds) := do
  if ← look isTraceEntry lines 1 then pure none
  else
    let stop ← find isCurrentLine lines 1
    if stop < lines.length - 1 then pure (some (.paused, 1, stop)) else pure none

def traced? (lines : List Line) : Option (Option Bounds) := do
  if ← look isTraceEntry lines 1 then
    pure (some (if lines.length = 5 then .tracedExpression else .tracedBlock, 1, 1))
  else pure none

/-- The first rule that applies decides; a rule behind it is not tried. -/
def decideBy (otherwise : Bounds) : List (List Line → Option (Option Bounds)) → List Line → Option Bounds
  | [], _ => pure otherwise
  | rule :: rules, lines => do
    match ← rule lines with
    | some bounds => pure bounds
    | none => decideBy otherwise rules lines

def bounds (lines : List Line) : Option Bounds := do
  let n := lines.length
  if ← look (· == continuationPrompt.toList) lines (n - 1) then pure (.continuation, 1, n - 1)
  else if n = 2 then pure (.quiet, 1, 1)
  else decideBy (.printed, 1, n - 1) [entering?, reentered?, returned?, paused?, traced?] lines

/-- The lines behind the echoed command begin with `body`. -/
def Shows (lines body : List Line) : Prop :=
  ∀ index (inside : index < body.length), lines[index + 1]? = some body[index]

theorem shows_body (command prompt : Line) (body : List Line) : Shows (command :: (body ++ [prompt])) body := by
  intro index inside
  rw [List.getElem?_cons_succ, List.getElem?_append_left inside, List.getElem?_eq_getElem inside]

theorem shows_prompt (command prompt : Line) (body : List Line) :
    Shows (command :: (body ++ [prompt])) (body ++ [prompt]) := by
  intro index inside
  rw [List.getElem?_cons_succ, List.getElem?_eq_getElem inside]

section
variable {lines body : List Line} (shows : Shows lines body)
include shows

theorem Shows.look {index : Nat} (inside : index < body.length) (test : Line → Bool) :
    Indexed.look test lines (index + 1) = some (test body[index]) := by
  rw [Indexed.look, shows index inside, Option.map_some]

theorem Shows.scan (test : Line → Bool) (start : Nat) :
    Indexed.scan (Indexed.look test lines) (start + 1) (body.length - start) =
      some (Layout.indexFrom test start body + 1) := by
  generalize remaining : body.length - start = count
  induction count generalizing start with
  | zero =>
    rw [Layout.indexFrom_of_le (by omega)]
    rfl
  | succ count ih =>
    have inside : start < body.length := by omega
    rw [Indexed.scan, shows.look inside]
    cases passes : test body[start] with
    | true =>
      rw [Layout.indexFrom_of_pos inside passes]
      rfl
    | false =>
      rw [Layout.indexFrom_of_neg inside passes, ← ih (start + 1) (by omega)]
      rfl

theorem Shows.scanBack (test : Line → Bool) {stop : Nat} (inside : stop ≤ body.length) :
    Indexed.scanBack (Indexed.look test lines) 3 (stop - 2) = some ((((List.range stop).filter fun line =>
      decide (2 ≤ line) && body[line]?.any test).getLast?).map (· + 1)) := by
  induction stop with
  | zero => rfl
  | succ stop ih =>
    rw [List.range_succ, List.filter_append, List.getLast?_append]
    by_cases early : stop < 2
    · have none : (List.range stop).filter (fun line => decide (2 ≤ line) && body[line]?.any test) = [] := by
        apply List.filter_eq_nil_iff.mpr
        intro line member
        have bound := List.mem_range.mp member
        simp only [Bool.and_eq_true, decide_eq_true_eq, not_and]
        omega
      have width : stop + 1 - 2 = 0 := by omega
      rw [none, width]
      have outside : ¬2 ≤ stop := by omega
      simp [Indexed.scanBack, outside]
    · have width : stop + 1 - 2 = (stop - 2) + 1 := by omega
      have place : 3 + (stop - 2) = stop + 1 := by omega
      rw [width, Indexed.scanBack, place, shows.look (by omega), ih (by omega)]
      have late : 2 ≤ stop := by omega
      cases passes : test body[stop] with
      | true => simp [late, List.getElem?_eq_getElem (show stop < body.length from inside), passes]
      | false => simp [List.getElem?_eq_getElem (show stop < body.length from inside), passes]

theorem Shows.collect (test : Line → Bool) {start count : Nat} (inside : start + count ≤ body.length) :
    Indexed.collect (Indexed.look test lines) (start + 1) count =
      some (((List.range' start count).filter fun index => body[index]?.any test).map (· + 1)) := by
  induction count generalizing start with
  | zero => rfl
  | succ count ih =>
    have here : start < body.length := by omega
    rw [Indexed.collect, shows.look here, ih (by omega), List.range'_succ, List.filter_cons, List.getElem?_eq_getElem here]
    cases passes : test body[start] <;> simp [passes]

theorem Shows.find (count : lines.length = body.length + 2) (test : Line → Bool) (start : Nat) :
    Indexed.find test lines (start + 1) = some (Layout.indexFrom test start body + 1) := by
  have width : body.length + 2 - 1 - (start + 1) = body.length - start := by omega
  rw [← shows.scan test start, Indexed.find, count, width]

theorem Shows.scan_isReturn (start count : Nat) (inside : start + count ≤ body.length - 4) :
    ∃ index, Indexed.scan (isReturn lines) (start + 1) count = some (index + 1) ∧
      start ≤ index ∧ index ≤ start + count ∧ (index < start + count → Layout.isReturnWithSequel body index = true) ∧
      ∀ earlier, start ≤ earlier → earlier < index → Layout.isReturnWithSequel body earlier = false := by
  induction count generalizing start with
  | zero => exact ⟨start, rfl, Nat.le_refl _, Nat.le_refl _, fun impossible => by omega, fun earlier _ _ => by omega⟩
  | succ count ih =>
    -- Every position that is tried has the lines behind it that the layout's rule asks for.
    have here : isReturn lines (start + 1) = some (Layout.isReturnWithSequel body start) := by
      have first : start < body.length := by omega
      have third : start + 2 < body.length := by omega
      rw [isReturn, shows.look first, Layout.isReturnWithSequel, List.getElem?_eq_getElem first,
        List.getElem?_eq_getElem third, show start + 1 + 2 = (start + 2) + 1 by omega]
      have room : start + 4 < body.length := by omega
      cases exits : isTraceExit body[start] with
      | true =>
        refine (shows.look third isReturning).trans ?_
        simp [room, exits]
      | false => simp [exits]
    cases passes : Layout.isReturnWithSequel body start with
    | true =>
      refine ⟨start, ?_, Nat.le_refl _, by omega, fun _ => passes, fun earlier _ _ => by omega⟩
      rw [Indexed.scan, here, passes]
      rfl
    | false =>
      obtain ⟨index, found, low, high, holds, none⟩ := ih (start + 1) (by omega)
      refine ⟨index, ?_, by omega, by omega, fun early => holds (by omega), ?_⟩
      · rw [Indexed.scan, here, passes]
        exact found
      · intro earlier behind before
        by_cases same : earlier = start
        · rw [same, passes]
        · exact none earlier (by omega) before

end

def ofLayout (layout : Layout) : Bounds :=
  (layout.kind, layout.first + 1, layout.stop + 1)

section
variable (command prompt : Line) (body : List Line)

theorem entering?_eq (filled : body ≠ []) : entering? (command :: (body ++ [prompt])) =
    some ((Layout.entering? body).map ofLayout) := by
  have shows := shows_body command prompt body
  obtain ⟨first, rest, rfl⟩ := List.exists_cons_of_ne_nil filled
  rw [entering?, shows.look (Nat.succ_pos rest.length), Layout.entering?]
  cases opens : isEntering first <;> simp [opens, ofLayout]

theorem traced?_eq (filled : body ≠ []) : traced? (command :: (body ++ [prompt])) =
    some ((Layout.traced? body).map ofLayout) := by
  have shows := shows_body command prompt body
  have count : (command :: (body ++ [prompt])).length = 5 ↔ body.length = 3 := by simp
  obtain ⟨first, rest, rfl⟩ := List.exists_cons_of_ne_nil filled
  rw [traced?, shows.look (Nat.succ_pos rest.length), Layout.traced?]
  simp only [count]
  cases traces : isTraceEntry first <;> simp [traces, ofLayout]

theorem paused?_eq (filled : body ≠ []) : paused? (command :: (body ++ [prompt])) =
    some ((Layout.paused? body).map ofLayout) := by
  have shows := shows_body command prompt body
  have length : (command :: (body ++ [prompt])).length = body.length + 2 := by simp
  have first : 0 < body.length := List.length_pos_of_ne_nil filled
  rw [paused?, shows.look first, shows.find length isCurrentLine 0, Layout.paused?, length,
    List.head?_eq_getElem?, List.getElem?_eq_getElem first]
  cases traces : isTraceEntry body[0] with
  | true => simp [traces]
  | false =>
    by_cases seen : Layout.indexFrom isCurrentLine 0 body < body.length
    · simp [traces, seen, Nat.not_le.mpr seen, ofLayout]
    · simp [traces, seen, Nat.not_lt.mp seen]

theorem returned?_eq : returned? (command :: (body ++ [prompt])) =
    some ((Layout.returned? body).map ofLayout) := by
  have shows := shows_body command prompt body
  have length : (command :: (body ++ [prompt])).length = body.length + 2 := by simp
  have exits : collect (look isTraceExit (command :: (body ++ [prompt]))) (0 + 1) (body.length - 2) =
      some ((Layout.traceExits body).map (· + 1)) := by
    rw [shows.collect isTraceExit (by omega), Layout.traceExits, List.range_eq_range']
  rw [returned?, length, show body.length + 2 - 3 - 1 = body.length - 2 by omega]
  simp only [Nat.zero_add] at exits
  rw [exits, Layout.returned?]
  cases Layout.traceExits body with
  | nil => rfl
  | cons first others =>
    have last : (others.map (· + 1)).getLastD (first + 1) = others.getLastD first + 1 := by
      simp only [List.getLastD_eq_getLast?, List.getLast?_map]
      cases others.getLast? <;> rfl
    have back := shows.find length isReturning (others.getLastD first + 2)
    have stop := shows.find length isCurrentLine (Layout.indexFrom isReturning (others.getLastD first + 2) body + 1)
    rw [show others.getLastD first + 2 + 1 = others.getLastD first + 1 + 2 by omega] at back
    simp only [Option.bind_eq_bind, Option.bind_some, List.map_cons, List.isEmpty_map, last, Nat.add_eq_right, back, stop]
    by_cases start : first = 0
    · simp [start, ofLayout]
    · simp [start, ofLayout]

end

/-- Looking for the call that is entered, the prompt is looked at as well. -/
theorem scan_isEntering (command : Line) {prompt : Line} {body : List Line} (silent : isEntering prompt = false)
    {start : Nat} (inside : start ≤ body.length) :
    scan (look isEntering (command :: (body ++ [prompt]))) (start + 1) (body.length + 2 - (start + 1)) =
      some (if Layout.indexFrom isEntering start body < body.length then Layout.indexFrom isEntering start body + 1
        else body.length + 2) := by
  have found := (shows_prompt command prompt body).scan isEntering start
  rw [List.length_append, List.length_singleton] at found
  rw [show body.length + 2 - (start + 1) = body.length + 1 - start by omega, found]
  have bound : (body.drop start).findIdx isEntering ≤ body.length - start := by
    rw [← List.length_drop]
    exact List.findIdx_le_length
  have past : [prompt].findIdx isEntering = 1 := by simp [List.findIdx_cons, silent]
  unfold Layout.indexFrom
  rw [List.drop_append_of_le_length inside, List.findIdx_append, List.length_drop, past]
  congr 1
  split <;> split <;> omega

theorem reentered?_eq (command : Line) {prompt : Line} (silent : isEntering prompt = false) (body : List Line) :
    reentered? (command :: (body ++ [prompt])) = some ((Layout.reentered? body).map ofLayout) := by
  have shows := shows_body command prompt body
  have length : (command :: (body ++ [prompt])).length = body.length + 2 := by simp
  obtain ⟨index, found, _, high, holds, before⟩ := shows.scan_isReturn 0 (body.length - 4) (by omega)
  simp only [Nat.zero_add] at found high holds
  rw [reentered?, length, show body.length + 2 - 5 - 1 = body.length - 4 by omega, found]
  by_cases early : index < body.length - 4
  · have first : (List.range body.length).find? (Layout.isReturnWithSequel body) = some index := by
      rw [List.find?_range_eq_some]
      exact ⟨holds early, List.mem_range.mpr (by omega), fun earlier bound => by simp [before earlier (by omega) bound]⟩
    have entry := scan_isEntering command silent (show index + 3 ≤ body.length by omega)
    have reached : index + 1 < body.length + 2 - 5 := by omega
    simp only [Option.bind_eq_bind, Option.bind_some, if_pos reached]
    rw [show index + 1 + 3 = index + 3 + 1 by omega, entry, Layout.reentered?, first]
    simp only [Option.bind_some]
    split
    next inside =>
      simp only [show Layout.indexFrom isEntering (index + 3) body + 1 < body.length + 2 by omega, if_true]
      by_cases late : 0 < index
      · simp [late, ofLayout]
      · obtain rfl : index = 0 := by omega
        rw [show 0 + 1 + 2 = 3 by omega, show Layout.indexFrom isEntering (0 + 3) body + 1 - 3 =
          Layout.indexFrom isEntering (0 + 3) body - 2 by omega, shows.scanBack isReturning (Nat.le_of_lt inside)]
        simp only [List.getLastD_eq_getLast?]
        cases ((List.range (Layout.indexFrom isEntering (0 + 3) body)).filter fun line =>
          decide (2 ≤ line) && body[line]?.any isReturning).getLast? <;> rfl
    next => simp
  · -- The positions that are not tried have too few lines behind them.
    have none : (List.range body.length).find? (Layout.isReturnWithSequel body) = none := by
      rw [List.find?_range_eq_none]
      intro earlier bound
      by_cases late : earlier < index
      · simp [before earlier (by omega) late]
      · simp [Layout.isReturnWithSequel, show ¬earlier + 4 < body.length by omega]
    have missed : ¬index + 1 < body.length + 2 - 5 := by omega
    rw [Layout.reentered?, none]
    simp only [Option.bind_eq_bind, Option.bind_some, if_neg missed]
    rfl

/-- Every lookup succeeds, and the rules agree with the layout. -/
theorem bounds_eq (command : Line) {prompt : Line} (body : List Line)
    (prompted : prompt = continuationPrompt.toList ∨ IsPrompt prompt) :
    bounds (command :: (body ++ [prompt])) = some (ofLayout (Response.layoutOf (command :: (body ++ [prompt])))) := by
  have length : (command :: (body ++ [prompt])).length = body.length + 2 := by simp
  have last : look (· == continuationPrompt.toList) (command :: (body ++ [prompt])) (body.length + 1) =
      some (prompt == continuationPrompt.toList) := by simp [look]
  rw [bounds, length, show body.length + 2 - 1 = body.length + 1 by omega, last, Response.layoutOf_append]
  by_cases continued : prompt = continuationPrompt.toList
  · simp [continued, ofLayout]
  · have silent : isEntering prompt = false := by
      obtain ⟨digits, _, _, rfl⟩ := prompted.resolve_left continued
      rfl
    simp only [beq_eq_false_iff_ne.mpr continued, Option.bind_eq_bind, Option.bind_some, Bool.false_eq_true, if_false,
      continued]
    by_cases filled : body = []
    · simp [filled, Layout.ofBody, ofLayout]
    · have room : ¬body.length + 2 = 2 := by simpa using filled
      rw [if_neg room, Layout.ofBody, if_neg (by simpa using filled)]
      simp only [decideBy, entering?_eq command prompt body filled, reentered?_eq command silent body,
        returned?_eq command prompt body, paused?_eq command prompt body filled, traced?_eq command prompt body filled]
      cases Layout.entering? body <;> cases Layout.reentered? body <;> cases Layout.returned? body <;>
        cases Layout.paused? body <;> cases Layout.traced? body <;> rfl

end RStepper.Indexed

namespace RStepper.Response
open Text Marker

/-- What a response says about its text: `first` and `stop` are what the rules chose, by positions in bounds. -/
structure Faithful (text : String) (response : Response) (command : Line) (body : List Line) (prompt : Line)
    (first stop : Nat) : Prop where
  cut : Cut text.toList (command :: (body ++ [prompt]))
  raw : response.raw = text
  cleaned : response.text = String.ofList (joinLines body)
  ordered : response.outputStart ≤ response.outputEnd
  inside : response.outputEnd ≤ response.text.utf8ByteSize
  startValid : String.Pos.Raw.IsValid response.text ⟨response.outputStart⟩
  endValid : String.Pos.Raw.IsValid response.text ⟨response.outputEnd⟩
  slice : ∃ before after, response.text = before ++ response.output ++ after ∧
    before.utf8ByteSize = response.outputStart ∧ (before ++ response.output).utf8ByteSize = response.outputEnd
  chosen : Indexed.bounds (command :: (body ++ [prompt])) = some (response.kind, first, stop)
  among : 0 < first ∧ (first < stop → stop ≤ body.length + 1)
  block : response.output = String.ofList (joinLines (((command :: (body ++ [prompt])).take stop).drop first))

private theorem block_eq {body : List Line} {layout : Layout} (fits : layout.Fits body) (command prompt : Line) :
    ((command :: (body ++ [prompt])).take (layout.stop + 1)).drop (layout.first + 1) = block body layout := by
  rw [List.take_succ_cons, List.drop_succ_cons]
  by_cases longer : layout.first < layout.stop
  · rw [List.take_append_of_le_length (fits longer), block]
  · rw [block_of_le (Nat.not_lt.mp longer)]
    exact List.drop_eq_nil_of_le (Nat.le_trans (List.length_take_le ..) (Nat.not_lt.mp longer))

/-- A text is taken apart exactly when it is complete, and then without loss: the offsets enclose the chosen lines of
the cleaned text and fall between its characters. -/
theorem classify_sound (text : String) :
    match classify text with
    | none => isComplete text.toList = false
    | some response => isComplete text.toList = true ∧
      ∃ command body prompt first stop, Faithful text response command body prompt first stop := by
  cases complete : isComplete text.toList with
  | false =>
    have refused : classify text = none := by simp [classify, complete]
    rw [refused]
  | true =>
    rw [classify_of_complete complete]
    refine ⟨rfl, ?_⟩
    obtain ⟨command, body, prompt, cut, prompted⟩ := isComplete_iff.mp complete
    have fits := fits_layoutOf (command :: (body ++ [prompt]))
    rw [cut.rows_eq]
    rw [bodyOf_append] at fits ⊢
    have bounds := Indexed.bounds_eq command body prompted
    generalize layoutOf (command :: (body ++ [prompt])) = layout at fits bounds ⊢
    obtain ⟨output, before, after, split, start, stop⟩ := output_split fits text
    refine ⟨command, body, prompt, layout.first + 1, layout.stop + 1, ?_⟩
    have sizes := congrArg String.utf8ByteSize split
    rw [String.utf8ByteSize_append, stop] at sizes
    refine {
      cut, raw := rfl, cleaned := rfl, chosen := bounds, slice := ⟨before, after, split, start, stop⟩
      ordered := ?_, inside := ?_, startValid := ?_, endValid := ?_
      among := ⟨Nat.succ_pos _, fun longer => Nat.succ_le_succ (fits (Nat.lt_of_succ_lt_succ longer))⟩
      block := by rw [block_eq fits, output] }
    · rw [← start, ← stop, String.utf8ByteSize_append]
      exact Nat.le_add_right ..
    · omega
    · exact String.Pos.Raw.isValid_iff_exists_append.mpr
        ⟨before, _, split.trans (String.append_assoc ..), congrArg String.Pos.Raw.mk start.symm⟩
    · exact String.Pos.Raw.isValid_iff_exists_append.mpr ⟨_, after, split, congrArg String.Pos.Raw.mk stop.symm⟩

end RStepper.Response
