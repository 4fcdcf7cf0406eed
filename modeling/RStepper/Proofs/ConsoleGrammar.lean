import Mathlib.Data.List.TakeWhile
import RStepper.Proofs.MarkerLines
import RStepper.Proofs.ResponseRange

/-! What the console writes between the command and the prompt, as a grammar, and that the classifier reads every
such response back: its kind, and the program's output among the reports. -/

namespace RStepper
open Text Marker

/-- What the console says of a traced call that returns: its exit, one line the exit hook prints, and the call
itself. -/
structure Return where
  exit : Line
  echo : Line
  call : Line
  exits : isTraceExit exit = true
  plain : isMarker echo = false
  returns : isReturning call = true

namespace Return

def lines (step : Return) : List Line :=
  [step.exit, step.echo, step.call]

def report (steps : List Return) : List Line :=
  steps.flatMap lines

theorem report_cons (step : Return) (steps : List Return) : report (step :: steps) = step.lines ++ report steps :=
  List.flatMap_cons

theorem report_append (first second : List Return) : report (first ++ second) = report first ++ report second :=
  List.flatMap_append

theorem length_report (steps : List Return) : (report steps).length = 3 * steps.length := by
  induction steps with
  | nil => rfl
  | cons step steps ih =>
    have own : step.lines.length = 3 := rfl
    rw [report_cons, List.length_append, ih, List.length_cons, own]
    omega

theorem silent_lines (step : Return) : Silent isEntering step.lines := by
  have echo : isEntering step.echo = false := (plain_singleton step.plain).entering _ (.head _)
  simp only [lines, silent_cons]
  exact ⟨isEntering_of_isTracing step.exits, echo, isEntering_of_isReturning step.returns, .nil _⟩

theorem report_last (step : Return) (steps : List Return) :
    ∃ (others : List Return) (last : Return), report (step :: steps) = report others ++ last.lines ∧
      others.length = steps.length := by
  have split := List.dropLast_concat_getLast (List.cons_ne_nil step steps)
  refine ⟨(step :: steps).dropLast, (step :: steps).getLast (List.cons_ne_nil _ _), ?_, List.length_dropLast⟩
  have alone (last : Return) : report [last] = last.lines := List.append_nil _
  rw [← alone, ← report_append, split]

theorem silent_report (steps : List Return) : Silent isEntering (report steps) := by
  induction steps with
  | nil => exact .nil _
  | cons step steps ih =>
    rw [report_cons]
    exact silent_append.mpr ⟨step.silent_lines, ih⟩

/-- One exit for every return, three lines apart. -/
theorem findIdxs_report (steps : List Return) (start : Nat) :
    (report steps).findIdxs isTraceExit start = List.range' start steps.length 3 := by
  induction steps generalizing start with
  | nil => rfl
  | cons step steps ih =>
    have echo : isTraceExit step.echo = false := (plain_singleton step.plain).traceExit _ (.head _)
    rw [report_cons, List.findIdxs_append, ih, List.length_cons, List.range'_succ]
    simp [lines, List.findIdxs_cons, step.exits, echo, isTraceExit_of_isReturning step.returns]

end Return

namespace Layout

theorem filter_range' (test : Line → Bool) (before body : List Line) :
    ((List.range' before.length body.length).filter fun index => (before ++ body)[index]?.any test) =
      body.findIdxs test before.length := by
  induction body generalizing before with
  | nil => rfl
  | cons line body ih =>
    have more := ih (before ++ [line])
    rw [List.length_append, List.length_singleton, List.append_assoc, List.singleton_append] at more
    rw [List.length_cons, List.range'_succ, List.filter_cons, more, List.findIdxs_cons,
      List.getElem?_append_right (Nat.le_refl _), Nat.sub_self]
    rfl

theorem filter_range (test : Line → Bool) (body : List Line) :
    ((List.range body.length).filter fun index => body[index]?.any test) = body.findIdxs test := by
  rw [List.range_eq_range']
  exact filter_range' test [] body

/-- Where the last two lines are no exits, no exit is left out. -/
theorem traceExits_eq {front back : List Line} (two : 2 ≤ back.length) (silent : Silent isTraceExit back) :
    traceExits (front ++ back) = (front ++ back).findIdxs isTraceExit := by
  have length : (front ++ back).length = (front ++ back).length - 2 + 2 := by
    rw [List.length_append]
    omega
  have last : (List.range' ((front ++ back).length - 2) 2).filter
      (fun index => (front ++ back)[index]?.any isTraceExit) = [] := by
    apply List.filter_eq_nil_iff.mpr
    intro index member
    have bound := (List.mem_range'_1.mp member).1
    rw [List.length_append] at bound
    rw [List.getElem?_append_right (by omega), silent.any]
    exact Bool.false_ne_true
  rw [← filter_range, length, List.range_eq_range', ← List.range'_append_1, List.filter_append, Nat.zero_add, last,
    List.append_nil, traceExits, List.range_eq_range']

theorem indexFrom_append (test : Line → Bool) (front back : List Line) :
    indexFrom test front.length (front ++ back) = front.length + back.findIdx test := by
  rw [indexFrom, List.drop_left]

theorem findIdx_silent {test : Line → Bool} {front : List Line} (silent : Silent test front) (back : List Line) :
    (front ++ back).findIdx test = front.length + back.findIdx test := by
  rw [List.findIdx_append, List.findIdx_eq_length_of_false silent, if_neg (Nat.lt_irrefl _), Nat.add_comm]

theorem entering?_silent {body : List Line} (silent : Silent isEntering body) : entering? body = none := by
  have first : body.head?.any isEntering = false := List.head?_eq_getElem? ▸ silent.any 0
  rw [entering?, first, if_neg Bool.false_ne_true]

theorem entering?_append {front : List Line} (some : front ≠ []) (silent : Silent isEntering front)
    (rest : List Line) : entering? (front ++ rest) = none := by
  rw [← entering?_silent silent, entering?, entering?, List.head?_append_of_ne_nil _ some]

theorem reentered?_silent {body : List Line} (silent : Silent isEntering body) : reentered? body = none := by
  unfold reentered?
  split
  next => rfl
  next index _ =>
    have entry : body.length ≤ indexFrom isEntering (index + 3) body := by
      have behind : Silent isEntering (body.drop (index + 3)) := fun line member => silent line (List.mem_of_mem_drop member)
      have absent := List.findIdx_eq_length_of_false behind
      rw [indexFrom, absent, List.length_drop]
      omega
    exact if_neg (Nat.not_lt.mpr entry)

theorem reentered?_of_no_exit {body : List Line} (silent : Silent isTraceExit body) : reentered? body = none := by
  have none : (List.range body.length).find? (isReturnWithSequel body) = none := by
    apply List.find?_range_eq_none.mpr
    intro index _
    rw [isReturnWithSequel, silent.any, Bool.and_false, Bool.false_and]
    rfl
  rw [reentered?, none]

theorem returned?_silent {body : List Line} (silent : Silent isTraceExit body) : returned? body = none := by
  have none : traceExits body = [] := by
    apply List.filter_eq_nil_iff.mpr
    intro index _
    rw [silent.any]
    exact Bool.false_ne_true
  rw [returned?, none]

end Layout

/-- The announcement of the current line with its statement, or nothing. -/
inductive Announced : List Line → Prop where
  | no : Announced []
  | yes {mark statement} (current : isCurrentLine mark = true) (plain : Plain statement) : Announced (mark :: statement)

/-- The console shows the body between command and prompt, of a kind, and with the output. -/
inductive Console : List Line → Kind → List Line → Prop where
  | quiet : Console [] .quiet []
  | printed {output} (plain : Plain output) (some : output ≠ []) : Console output .printed output
  | entered {mark more} (enters : isEntering mark = true) : Console (mark :: more) .entering []
  | paused {output mark statement} (plain : Plain output) (current : isCurrentLine mark = true)
      (stated : Plain statement) : Console (output ++ mark :: statement) .paused output
  | returned {before output pause} (step : Return) (steps : List Return) (plain : Plain before) (printed : Plain output)
      (announced : Announced pause) :
      Console (before ++ Return.report (step :: steps) ++ output ++ pause)
        (if steps.isEmpty then .returned else .returnedMany) (if before.isEmpty then output else before)
  | reentered {before output mark more} (step : Return) (steps : List Return) (plain : Plain before)
      (printed : Plain output) (enters : isEntering mark = true) (some : more ≠ []) :
      Console (before ++ Return.report (step :: steps) ++ output ++ mark :: more) .reentered
        (if before.isEmpty then output else before)
  | traced {mark more} (traces : isTraceEntry mark = true) (silent : Silent isTraceExit more) :
      Console (mark :: more) (if more.length = 2 then .tracedExpression else .tracedBlock) []

namespace Layout

theorem traceExits_report {before rest : List Line} (step : Return) (steps : List Return)
    (quiet : Silent isTraceExit before) (silent : Silent isTraceExit rest) :
    traceExits (before ++ Return.report (step :: steps) ++ rest) = List.range' before.length (steps.length + 1) 3 := by
  obtain ⟨others, last, split, _⟩ := Return.report_last step steps
  have parts : before ++ Return.report (step :: steps) ++ rest =
      (before ++ Return.report others ++ [last.exit]) ++ (last.echo :: last.call :: rest) := by
    simp [split, Return.lines]
  have behind : Silent isTraceExit (last.echo :: last.call :: rest) := by
    have echo : isTraceExit last.echo = false := (plain_singleton last.plain).traceExit _ (.head _)
    exact silent_cons.mpr ⟨echo, silent_cons.mpr ⟨isTraceExit_of_isReturning last.returns, silent⟩⟩
  rw [parts, traceExits_eq (by simp) behind, ← parts, List.findIdxs_append, List.findIdxs_append, Return.findIdxs_report,
    List.findIdxs_eq_nil_iff.mpr quiet, List.findIdxs_eq_nil_iff.mpr silent, List.append_nil, List.nil_append, Nat.zero_add,
    List.length_cons]

theorem ofBody_printed {output : List Line} (plain : Plain output) (some : output ≠ []) :
    ofBody output = ⟨.printed, 0, output.length⟩ := by
  have seen : indexFrom isCurrentLine 0 output = output.length := by
    rw [indexFrom, List.drop_zero, List.findIdx_eq_length_of_false plain.current, Nat.zero_add]
  have first : output.head?.any isTraceEntry = false := List.head?_eq_getElem? ▸ plain.traceEntry.any 0
  have paused : paused? output = none := by simp [paused?, seen]
  have traced : traced? output = none := by simp [traced?, first]
  rw [ofBody, if_neg (by simpa using some), entering?_silent plain.entering, reentered?_silent plain.entering,
    returned?_silent plain.traceExit, paused, traced]
  rfl

theorem ofBody_entered {mark : Line} (enters : isEntering mark = true) (more : List Line) :
    ofBody (mark :: more) = ⟨.entering, 0, 0⟩ := by
  have entered : entering? (mark :: more) = some ⟨.entering, 0, 0⟩ := by simp [entering?, enters]
  rw [ofBody, if_neg (by simp), entered]
  rfl

theorem ofBody_paused {output statement : List Line} {mark : Line} (plain : Plain output)
    (current : isCurrentLine mark = true) (stated : Plain statement) :
    ofBody (output ++ mark :: statement) = ⟨.paused, 0, output.length⟩ := by
  obtain ⟨enters, traces⟩ := apart_of_isCurrentLine current
  have entering : Silent isEntering (output ++ mark :: statement) :=
    silent_append.mpr ⟨plain.entering, silent_cons.mpr ⟨enters, stated.entering⟩⟩
  have exits : Silent isTraceExit (output ++ mark :: statement) :=
    silent_append.mpr ⟨plain.traceExit, silent_cons.mpr ⟨traces _, stated.traceExit⟩⟩
  have entry : Silent isTraceEntry (output ++ mark :: statement) :=
    silent_append.mpr ⟨plain.traceEntry, silent_cons.mpr ⟨traces _, stated.traceEntry⟩⟩
  have seen : indexFrom isCurrentLine 0 (output ++ mark :: statement) = output.length := by
    rw [indexFrom, List.drop_zero, findIdx_silent plain.current, List.findIdx_cons, current]
    simp
  have first : (output ++ mark :: statement).head?.any isTraceEntry = false := List.head?_eq_getElem? ▸ entry.any 0
  have paused : paused? (output ++ mark :: statement) = some ⟨.paused, 0, output.length⟩ := by
    simp only [paused?, seen, first]
    simp
  rw [ofBody, if_neg (by simp), entering?_silent entering, reentered?_silent entering, returned?_silent exits, paused]
  rfl

theorem ofBody_traced {mark : Line} {more : List Line} (traces : isTraceEntry mark = true)
    (silent : Silent isTraceExit more) :
    ofBody (mark :: more) = ⟨if more.length = 2 then .tracedExpression else .tracedBlock, 0, 0⟩ := by
  have exits : Silent isTraceExit (mark :: more) := silent_cons.mpr ⟨isTraceExit_of_isTraceEntry traces, silent⟩
  have entered : entering? (mark :: more) = none := by simp [entering?, isEntering_of_isTracing traces]
  have paused : paused? (mark :: more) = none := by simp [paused?, traces]
  have traced : traced? (mark :: more) = some ⟨if more.length = 2 then .tracedExpression else .tracedBlock, 0, 0⟩ := by
    simp [traced?, traces]
  rw [ofBody, if_neg (by simp), entered, reentered?_of_no_exit exits, returned?_silent exits, paused, traced]
  rfl

theorem findIdx_announced {pause : List Line} (announced : Announced pause) : pause.findIdx isCurrentLine = 0 := by
  cases announced with
  | no => rfl
  | yes current => rw [List.findIdx_cons, current, cond_true]

theorem silent_announced {pause : List Line} (announced : Announced pause) :
    Silent isEntering pause ∧ Silent isTraceExit pause := by
  cases announced with
  | no => exact ⟨.nil _, .nil _⟩
  | yes current plain =>
    obtain ⟨enters, traces⟩ := apart_of_isCurrentLine current
    exact ⟨silent_cons.mpr ⟨enters, plain.entering⟩, silent_cons.mpr ⟨traces _, plain.traceExit⟩⟩

theorem indexFrom_returning (step : Return) (steps : List Return) (rest : List Line) :
    indexFrom isReturning (3 * steps.length + 2) (Return.report (step :: steps) ++ rest) = 3 * steps.length + 2 := by
  obtain ⟨others, last, split, length⟩ := Return.report_last step steps
  have parts : Return.report (step :: steps) ++ rest =
      (Return.report others ++ [last.exit, last.echo]) ++ last.call :: rest := by
    simp [split, Return.lines]
  have front : (Return.report others ++ [last.exit, last.echo]).length = 3 * steps.length + 2 := by
    rw [List.length_append, Return.length_report, length]
    rfl
  rw [parts, ← front, indexFrom_append, List.findIdx_cons, last.returns, cond_true, Nat.add_zero]

/-- The output stands before the returns or, if nothing does, behind them. -/
def aroundReturns (kind : Kind) (before output : List Line) (count : Nat) : Layout :=
  if before.isEmpty then ⟨kind, 3 * count, 3 * count + output.length⟩ else ⟨kind, 0, before.length⟩

theorem kind_aroundReturns (kind : Kind) (before output : List Line) (count : Nat) :
    (aroundReturns kind before output count).kind = kind := by
  unfold aroundReturns
  split <;> rfl

/-- Whatever the announced statement shows but for trace exits, the output lies around the returns. -/
theorem returned?_around {before output pause : List Line} (step : Return) (steps : List Return) (plain : Plain before)
    (printed : Plain output) (announced : pause.findIdx isCurrentLine = 0) (exits : Silent isTraceExit pause) :
    returned? (before ++ Return.report (step :: steps) ++ output ++ pause) =
      some (aroundReturns (if steps.isEmpty then .returned else .returnedMany) before output (steps.length + 1)) := by
  have positions := traceExits_report step steps plain.traceExit (silent_append.mpr ⟨printed.traceExit, exits⟩)
  rw [← List.append_assoc, List.range'_succ] at positions
  have kind : (List.range' (before.length + 3) steps.length 3).isEmpty = steps.isEmpty := by
    cases steps <;> rfl
  simp only [returned?, positions, kind]
  cases before with
  | nil =>
    -- The reports come first, so the output lies between the last of them and the current line.
    have last : (List.range' (0 + 3) steps.length 3).getLastD 0 + 2 = 3 * steps.length + 2 := by
      cases steps.length with
      | zero => rfl
      | succ count =>
        rw [List.range'_concat, List.getLastD_concat]
        omega
    have stop : indexFrom isCurrentLine (3 * steps.length + 2 + 1) (Return.report (step :: steps) ++ (output ++ pause)) =
        3 * (steps.length + 1) + output.length := by
      have front : (Return.report (step :: steps)).length = 3 * steps.length + 2 + 1 := by
        rw [Return.length_report, List.length_cons]
        omega
      rw [← front, indexFrom_append, findIdx_silent printed.current, announced, front]
      omega
    simp only [List.length_nil, List.nil_append, if_true, last, List.append_assoc, indexFrom_returning, stop]
    rfl
  | cons line before => simp [aroundReturns]

theorem ofBody_returned {before output pause : List Line} (step : Return) (steps : List Return) (plain : Plain before)
    (printed : Plain output) (announced : Announced pause) :
    ofBody (before ++ Return.report (step :: steps) ++ output ++ pause) =
      aroundReturns (if steps.isEmpty then .returned else .returnedMany) before output (steps.length + 1) := by
  obtain ⟨enters, exits⟩ := silent_announced announced
  have entering : Silent isEntering (before ++ Return.report (step :: steps) ++ output ++ pause) := by
    simp only [silent_append]
    exact ⟨⟨⟨plain.entering, Return.silent_report _⟩, printed.entering⟩, enters⟩
  have filled : (before ++ Return.report (step :: steps) ++ output ++ pause).isEmpty ≠ true := by
    simp [Return.report_cons, Return.lines]
  rw [ofBody, if_neg filled, entering?_silent entering, reentered?_silent entering,
    returned?_around step steps plain printed (findIdx_announced announced) exits]
  rfl

theorem find?_return {before : List Line} (rest : List Line) (step : Return) (quiet : Silent isTraceExit before)
    (two : 2 ≤ rest.length) :
    (List.range (before ++ (step.lines ++ rest)).length).find? (isReturnWithSequel (before ++ (step.lines ++ rest))) =
      some before.length := by
  have length : (before ++ (step.lines ++ rest)).length = before.length + (3 + rest.length) := by
    rw [List.length_append, List.length_append]
    rfl
  apply List.find?_range_eq_some.mpr
  refine ⟨?_, List.mem_range.mpr (by omega), ?_⟩
  · have room : before.length + 4 < (before ++ (step.lines ++ rest)).length := by omega
    rw [isReturnWithSequel, decide_eq_true room]
    simp [Return.lines, step.exits, step.returns]
  · intro index early
    rw [isReturnWithSequel, List.getElem?_append_left early, quiet.any, Bool.and_false, Bool.false_and]
    rfl

theorem indexFrom_entering {before output : List Line} {mark : Line} (step : Return) (steps : List Return)
    (printed : Plain output) (enters : isEntering mark = true) (more : List Line) :
    indexFrom isEntering (before.length + 3) (before ++ Return.report (step :: steps) ++ output ++ mark :: more) =
      before.length + 3 * (steps.length + 1) + output.length := by
  have parts : before ++ Return.report (step :: steps) ++ output ++ mark :: more =
      (before ++ step.lines) ++ ((Return.report steps ++ output) ++ mark :: more) := by
    simp [Return.report_cons]
  have front : (before ++ step.lines).length = before.length + 3 := List.length_append
  have silent : Silent isEntering (Return.report steps ++ output) :=
    silent_append.mpr ⟨Return.silent_report _, printed.entering⟩
  rw [parts, ← front, indexFrom_append, findIdx_silent silent, List.findIdx_cons, enters, cond_true, front,
    List.length_append, Return.length_report]
  omega

theorem returns_getLastD {output : List Line} (step : Return) (steps : List Return) (printed : Plain output)
    (more : List Line) :
    ((List.range (3 * (steps.length + 1) + output.length)).filter fun line =>
      decide (2 ≤ line) && (Return.report (step :: steps) ++ (output ++ more))[line]?.any isReturning).getLastD 2 =
      3 * steps.length + 2 := by
  obtain ⟨others, last, split, length⟩ := Return.report_last step steps
  have width : (Return.report (step :: steps)).length = 3 * steps.length + 2 + 1 := by
    rw [Return.length_report, List.length_cons]
    omega
  have behind : (List.range' (3 * steps.length + 2 + 1) output.length).filter (fun line =>
      decide (2 ≤ line) && (Return.report (step :: steps) ++ (output ++ more))[line]?.any isReturning) = [] := by
    apply List.filter_eq_nil_iff.mpr
    intro line member
    obtain ⟨low, high⟩ := List.mem_range'_1.mp member
    rw [List.getElem?_append_right (by omega), width, List.getElem?_append_left (by omega), printed.returning.any,
      Bool.and_false]
    exact Bool.false_ne_true
  have call : (Return.report (step :: steps) ++ (output ++ more))[3 * steps.length + 2]? = some last.call := by
    have front : (Return.report others).length = 3 * steps.length := by rw [Return.length_report, length]
    rw [List.getElem?_append_left (by omega), split, List.getElem?_append_right (by omega), front, Nat.add_sub_cancel_left]
    rfl
  rw [show 3 * (steps.length + 1) + output.length = 3 * steps.length + 2 + 1 + output.length by omega, List.range_eq_range',
    ← List.range'_append_1, Nat.zero_add, List.filter_append, behind, List.append_nil, ← List.range_eq_range',
    List.range_succ, List.filter_append, List.filter_singleton, call, Option.any_some, last.returns]
  simp

theorem ofBody_reentered {before output more : List Line} {mark : Line} (step : Return) (steps : List Return)
    (plain : Plain before) (printed : Plain output) (enters : isEntering mark = true) (some : more ≠ []) :
    ofBody (before ++ Return.report (step :: steps) ++ output ++ mark :: more) =
      aroundReturns .reentered before output (steps.length + 1) := by
  have wide := List.length_pos_of_ne_nil some
  have found := find?_return (Return.report steps ++ output ++ mark :: more) step plain.traceExit (by simp; omega)
  have parts : before ++ (step.lines ++ (Return.report steps ++ output ++ mark :: more)) =
      before ++ Return.report (step :: steps) ++ output ++ mark :: more := by
    simp [Return.report_cons]
  rw [parts] at found
  have filled : (before ++ Return.report (step :: steps) ++ output ++ mark :: more).isEmpty ≠ true := by simp
  have entered : entering? (before ++ Return.report (step :: steps) ++ output ++ mark :: more) = none := by
    rw [← parts, ← List.append_assoc]
    exact entering?_append (by simp [Return.lines]) (silent_append.mpr ⟨plain.entering, step.silent_lines⟩) _
  have reentered : reentered? (before ++ Return.report (step :: steps) ++ output ++ mark :: more) =
      .some (aroundReturns .reentered before output (steps.length + 1)) := by
    have inside : before.length + 3 * (steps.length + 1) + output.length <
        (before ++ Return.report (step :: steps) ++ output ++ mark :: more).length := by
      simp only [List.length_append, List.length_cons, Return.length_report]
      omega
    simp only [reentered?, found, indexFrom_entering step steps printed enters more, if_pos inside]
    cases before with
    | nil =>
      have last := returns_getLastD step steps printed (mark :: more)
      simp only [List.nil_append, List.length_nil, Nat.zero_add, List.append_assoc, last]
      rfl
    | cons line before => simp [aroundReturns]
  rw [ofBody, if_neg filled, entered, reentered]
  rfl

end Layout

namespace Response

theorem block_aroundReturns (before output rest : List Line) (step : Return) (steps : List Return) (kind : Kind) :
    block (before ++ Return.report (step :: steps) ++ output ++ rest)
      (Layout.aroundReturns kind before output (steps.length + 1)) = if before.isEmpty then output else before := by
  cases before with
  | nil =>
    have front : (Return.report (step :: steps)).length = 3 * (steps.length + 1) := Return.length_report _
    have upper : (Return.report (step :: steps) ++ output).length = 3 * (steps.length + 1) + output.length := by
      rw [List.length_append, front]
    simp only [block, Layout.aroundReturns, List.nil_append, List.isEmpty_nil, if_true]
    rw [← upper, List.take_left, ← front, List.drop_left]
  | cons line before =>
    simp only [block, Layout.aroundReturns, List.isEmpty_cons, Bool.false_eq_true, if_false, List.append_assoc,
      List.drop_zero]
    exact List.take_left ..

theorem block_console {body output : List Line} {kind : Kind} (console : Console body kind output) :
    (Layout.ofBody body).kind = kind ∧ block body (Layout.ofBody body) = output := by
  cases console with
  | quiet => exact ⟨rfl, rfl⟩
  | printed plain some =>
    rw [Layout.ofBody_printed plain some]
    exact ⟨rfl, List.take_length⟩
  | entered enters =>
    rw [Layout.ofBody_entered enters]
    exact ⟨rfl, rfl⟩
  | paused plain current stated =>
    rw [Layout.ofBody_paused plain current stated]
    exact ⟨rfl, List.take_left ..⟩
  | returned step steps plain printed announced =>
    rw [Layout.ofBody_returned step steps plain printed announced]
    exact ⟨Layout.kind_aroundReturns .., block_aroundReturns ..⟩
  | reentered step steps plain printed enters some =>
    rw [Layout.ofBody_reentered step steps plain printed enters some]
    exact ⟨Layout.kind_aroundReturns .., block_aroundReturns ..⟩
  | traced traces silent =>
    rw [Layout.ofBody_traced traces silent]
    exact ⟨rfl, rfl⟩

/-- Whatever the console shows between a command and a prompt is read back, with breaks of any sort. -/
theorem classify_console {text : String} {command prompt : Line} {body output : List Line} {kind : Kind}
    (console : Console body kind output) (prompted : IsPrompt prompt)
    (cut : Cut text.toList (command :: (body ++ [prompt]))) :
    ∃ response, classify text = some response ∧ response.kind = kind ∧
      response.output = String.ofList (joinLines output) := by
  have complete : isComplete text.toList = true := isComplete_iff.mpr ⟨command, body, prompt, cut, .inr prompted⟩
  have layout : layoutOf (command :: (body ++ [prompt])) = Layout.ofBody body := by
    rw [layoutOf_append, if_neg prompted.ne_continuation]
  obtain ⟨sort, lines⟩ := block_console console
  refine ⟨_, classify_of_complete complete, ?_⟩
  rw [cut.rows_eq, bodyOf_append, layout]
  have fits := Layout.fits_ofBody body
  obtain ⟨written, _⟩ := output_split fits text
  exact ⟨sort, written.trans (by rw [lines])⟩

/-- A call returns, prints, and the next one is entered. -/
theorem reentry_console : ∃ response,
    classify "n\nTracing f() on exit \n[1] 1\nexiting from: f()\n5\r\ndebugging in: f()\rdebug: x\nBrowse[2]> " =
      some response ∧
    response.kind = .reentered ∧ response.output = String.ofList (joinLines [['5']]) := by
  have printed : Plain [['5']] := plain_singleton (by decide)
  have console : Console ([] ++ Return.report
      [⟨"Tracing f() on exit ".toList, "[1] 1".toList, "exiting from: f()".toList, by decide, by decide, by decide⟩] ++
      [['5']] ++ "debugging in: f()".toList :: ["debug: x".toList]) .reentered [['5']] :=
    .reentered _ _ (.nil _) printed (by decide) (by decide)
  have prompted : IsPrompt "Browse[2]> ".toList := ⟨['2'], by decide, by decide, by decide⟩
  exact classify_console console prompted (cut_iff.mpr (by decide +kernel : rows _ = ['n'] :: _))

end Response
end RStepper
