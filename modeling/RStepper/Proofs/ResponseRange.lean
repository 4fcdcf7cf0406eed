import RStepper.Proofs.ResponseEnd
import RStepper.Response.Basic

/-! The output range of a response: it lies inside the cleaned text, begins and ends between characters,
and holds exactly the lines that the rules chose. The two offsets are what one pass over the body adds up. -/

namespace RStepper
open Text Marker

namespace Layout

/-- Where there is output, it ends among the body lines. -/
def Fits (layout : Layout) (body : List Line) : Prop :=
  layout.first < layout.stop → layout.stop ≤ body.length

theorem indexFrom_le (test : Line → Bool) (start : Nat) (body : List Line) :
    indexFrom test start body ≤ max start body.length := by
  have bound : (body.drop start).findIdx test ≤ (body.drop start).length := List.findIdx_le_length
  rw [List.length_drop] at bound
  unfold indexFrom
  omega

theorem indexFrom_of_le {body : List Line} {start : Nat} (behind : body.length ≤ start) (test : Line → Bool) :
    indexFrom test start body = start := by
  rw [indexFrom, List.drop_eq_nil_of_le behind, List.findIdx_nil, Nat.add_zero]

theorem indexFrom_of_pos {test : Line → Bool} {body : List Line} {start : Nat} (inside : start < body.length)
    (passes : test body[start] = true) : indexFrom test start body = start := by
  rw [indexFrom, List.drop_eq_getElem_cons inside, List.findIdx_cons, passes, cond_true, Nat.add_zero]

theorem indexFrom_of_neg {test : Line → Bool} {body : List Line} {start : Nat} (inside : start < body.length)
    (fails : test body[start] = false) : indexFrom test start body = indexFrom test (start + 1) body := by
  rw [indexFrom, List.drop_eq_getElem_cons inside, List.findIdx_cons, fails, cond_false, indexFrom]
  omega

theorem fits_entering {body : List Line} {layout : Layout} (found : entering? body = some layout) : layout.Fits body := by
  unfold entering? at found
  split at found <;> cases found
  exact nofun

theorem fits_reentered {body : List Line} {layout : Layout} (found : reentered? body = some layout) : layout.Fits body := by
  unfold reentered? at found
  split at found
  next => cases found
  next index seen =>
    have inside : index < body.length := List.mem_range.mp (List.mem_of_find?_eq_some seen)
    dsimp only at found
    split at found
    next entry =>
      split at found <;> cases found
      · intro _
        exact Nat.le_of_lt inside
      · intro _
        exact Nat.le_of_lt entry
    next => cases found

theorem fits_returned {body : List Line} {layout : Layout} (found : returned? body = some layout) : layout.Fits body := by
  unfold returned? at found
  split at found
  next => cases found
  next first others seen =>
    have inside : first ∈ traceExits body := seen ▸ List.mem_cons_self
    have bound := List.mem_range.mp (List.mem_filter.mp inside).1
    dsimp only at found
    split at found <;> cases found
    · intro longer
      have bound := indexFrom_le isCurrentLine (indexFrom isReturning (others.getLastD first + 2) body + 1) body
      dsimp only at longer ⊢
      omega
    · intro _
      dsimp only
      omega

theorem fits_paused {body : List Line} {layout : Layout} (found : paused? body = some layout) : layout.Fits body := by
  unfold paused? at found
  dsimp only at found
  split at found <;> cases found
  next open_ =>
    simp only [Bool.or_eq_true, decide_eq_true_eq, not_or] at open_
    intro _
    dsimp only
    omega

theorem fits_traced {body : List Line} {layout : Layout} (found : traced? body = some layout) : layout.Fits body := by
  unfold traced? at found
  split at found <;> cases found
  exact nofun

/-- All that the layout of a body can be: what a rule finds, or all of it printed, or nothing. -/
inductive Ruled (body : List Line) : Layout → Prop where
  | blank : Ruled body ⟨.quiet, 0, 0⟩
  | entering {layout} (found : entering? body = some layout) : Ruled body layout
  | reentered {layout} (found : reentered? body = some layout) : Ruled body layout
  | returned {layout} (found : returned? body = some layout) : Ruled body layout
  | paused {layout} (found : paused? body = some layout) : Ruled body layout
  | traced {layout} (found : traced? body = some layout) : Ruled body layout
  | printed : Ruled body ⟨.printed, 0, body.length⟩

theorem ofBody_ruled (body : List Line) : Ruled body (ofBody body) := by
  unfold ofBody
  split
  · exact .blank
  · cases chosen : (entering? body <|> reentered? body <|> returned? body <|> paused? body <|> traced? body) with
    | none => exact .printed
    | some layout =>
      simp only [Option.orElse_eq_orElse, Option.orElse_eq_or, Option.or_eq_some_iff] at chosen
      rcases chosen with found | ⟨_, found | ⟨_, found | ⟨_, found | ⟨_, found⟩⟩⟩⟩
      · exact .entering found
      · exact .reentered found
      · exact .returned found
      · exact .paused found
      · exact .traced found

theorem fits_ofBody (body : List Line) : (ofBody body).Fits body := by
  have ruled := ofBody_ruled body
  generalize ofBody body = layout at ruled ⊢
  cases ruled with
  | blank => exact nofun
  | entering found => exact fits_entering found
  | reentered found => exact fits_reentered found
  | returned found => exact fits_returned found
  | paused found => exact fits_paused found
  | traced found => exact fits_traced found
  | printed => exact fun _ => Nat.le_refl _

end Layout

namespace Response

theorem bodyOf_append (command prompt : Line) (body : List Line) : bodyOf (command :: (body ++ [prompt])) = body := by
  rw [bodyOf, List.drop_one, List.tail_cons, List.dropLast_concat]

/-- Only a continuation prompt counts for the layout; below any other the body decides. -/
theorem layoutOf_append (command prompt : Line) (body : List Line) : layoutOf (command :: (body ++ [prompt])) =
    if prompt = continuationPrompt.toList then ⟨.continuation, 0, body.length⟩ else Layout.ofBody body := by
  rw [layoutOf, bodyOf_append, ← List.cons_append, List.getLast?_concat]
  simp only [Option.some.injEq]

theorem fits_layoutOf (all : List Line) : (layoutOf all).Fits (bodyOf all) := by
  unfold layoutOf
  split
  · exact fun _ => Nat.le_refl _
  · exact Layout.fits_ofBody _

private theorem take_ne_nil {body : List Line} {index : Nat} (some : 0 < index) (inside : index ≤ body.length) :
    body.take index ≠ [] := by
  apply List.ne_nil_of_length_pos
  rwa [List.length_take_of_le inside]

theorem offsetThrough_succ {body : List Line} {index : Nat} (inside : index < body.length) :
    offsetThrough body (index + 1) = offsetBefore body index + byteLength body[index] := by
  rw [offsetThrough, List.take_succ_eq_append_getElem inside, offsetBefore]
  by_cases start : index = 0
  · simp [start]
  · have upper : body.take index ≠ [] := take_ne_nil (Nat.pos_of_ne_zero start) (Nat.le_of_lt inside)
    rw [joinLines_append upper (List.cons_ne_nil _ _), joinLines_singleton, byteLength_append, byteLength_cons,
      if_pos ⟨by omega, inside⟩, ← Nat.add_assoc]
    rfl

theorem offsetBefore_succ {body : List Line} {index : Nat} (inside : index < body.length) :
    offsetBefore body (index + 1) =
      offsetBefore body index + byteLength body[index] + if index + 1 < body.length then 1 else 0 := by
  rw [← offsetThrough_succ inside]
  simp only [offsetBefore, offsetThrough, Nat.succ_pos, true_and]

theorem offsetThrough_of_le {body : List Line} {index : Nat} (behind : body.length ≤ index) :
    offsetThrough body index = offsetBefore body body.length := by
  simp [offsetThrough, offsetBefore, List.take_of_length_le behind]

/-- What one body line adds to the two offsets: its bytes, and the break behind it, which the last line of the body
has not and the last line of the output leaves out. -/
def gather (body : List Line) (layout : Layout) (range : Nat × Nat) : Line × Nat → Nat × Nat
  | (line, index) =>
    (if index < layout.first then range.1 + byteLength line + (if index + 1 < body.length then 1 else 0) else range.1,
      if index < layout.stop then
        range.2 + byteLength line + (if index + 1 < body.length ∧ index + 1 ≠ layout.stop then 1 else 0)
      else range.2)

theorem foldl_gather {body : List Line} {layout : Layout} (longer : layout.first < layout.stop) {count : Nat}
    (inside : count ≤ body.length) : (body.zipIdx.take count).foldl (gather body layout) (0, 0) =
      (offsetBefore body (min layout.first count),
        if count < layout.stop then offsetBefore body count else offsetThrough body layout.stop) := by
  induction count with
  | zero => simp [offsetBefore, Nat.zero_lt_of_lt longer]
  | succ count ih =>
    rw [List.take_succ_eq_append_getElem (by rw [List.length_zipIdx]; exact inside), List.foldl_concat, ih (Nat.le_of_succ_le inside),
      List.getElem_zipIdx, Nat.zero_add, gather]
    refine Prod.ext ?_ ?_
    · dsimp only
      split
      next before => rw [Nat.min_eq_right (by omega), Nat.min_eq_right (by omega), offsetBefore_succ inside]
      next behind => rw [Nat.min_eq_left (by omega), Nat.min_eq_left (by omega)]
    · dsimp only
      rcases Nat.lt_trichotomy (count + 1) layout.stop with before | last | behind
      · rw [if_pos (by omega), if_pos (by omega), if_pos before, offsetBefore_succ inside]
        simp only [Nat.ne_of_lt before, ne_eq, not_false_eq_true, and_true]
      · rw [if_pos (by omega), if_pos (by omega), if_neg (by omega), if_neg (by omega), ← last, offsetThrough_succ inside]
        rfl
      · rw [if_neg (by omega), if_neg (by omega), if_neg (by omega)]

/-- The range of the output is what one pass over the body adds up. -/
theorem outputRange_eq_foldl (body : List Line) (layout : Layout) : outputRange body layout =
    if layout.stop ≤ layout.first then (0, 0) else body.zipIdx.foldl (gather body layout) (0, 0) := by
  unfold outputRange
  split
  next => rfl
  next longer =>
    have whole := foldl_gather (Nat.not_le.mp longer) (Nat.le_refl body.length)
    rw [List.take_of_length_le (by simp)] at whole
    rw [whole]
    refine Prod.ext ?_ ?_
    · dsimp only
      rcases Nat.le_total layout.first body.length with inside | behind
      · rw [Nat.min_eq_left inside]
      · rw [Nat.min_eq_right behind]
        simp [offsetBefore, List.take_of_length_le behind, Nat.not_lt.mpr behind]
    · dsimp only
      split
      next short => exact offsetThrough_of_le (Nat.le_of_lt short)
      next => rfl

/-- The body lines of a layout's output. -/
def block (body : List Line) (layout : Layout) : List Line :=
  (body.take layout.stop).drop layout.first

theorem block_of_le {layout : Layout} (none : layout.stop ≤ layout.first) (body : List Line) :
    block body layout = [] := by
  refine List.drop_eq_nil_of_le (Nat.le_trans ?_ none)
  exact List.length_take_le ..

private theorem take_eq_append_block {layout : Layout} (longer : layout.first < layout.stop) (body : List Line) :
    body.take layout.stop = body.take layout.first ++ block body layout := by
  have front : (body.take layout.stop).take layout.first = body.take layout.first := by
    rw [List.take_take, Nat.min_eq_left (Nat.le_of_lt longer)]
  rw [block, ← front, List.take_append_drop]

theorem joinLines_eq_around_block {body : List Line} {layout : Layout} (longer : layout.first < layout.stop)
    (inside : layout.stop ≤ body.length) :
    ∃ before after, joinLines body = before ++ joinLines (block body layout) ++ after ∧
      byteLength before = offsetBefore body layout.first ∧
      byteLength (before ++ joinLines (block body layout)) = offsetThrough body layout.stop := by
  have some : block body layout ≠ [] := by
    intro none
    have length := congrArg List.length none
    simp only [block, List.length_drop, List.length_take, List.length_nil] at length
    omega
  obtain ⟨after, behind⟩ : ∃ after, joinLines body = joinLines (body.take layout.stop) ++ after := by
    by_cases last : body.drop layout.stop = []
    · exact ⟨[], by rw [List.append_nil, List.take_of_length_le (List.drop_eq_nil_iff.mp last)]⟩
    · refine ⟨'\n' :: joinLines (body.drop layout.stop), ?_⟩
      have upper : body.take layout.stop ≠ [] := by
        rw [take_eq_append_block longer]
        exact List.append_ne_nil_of_right_ne_nil _ some
      rw [← joinLines_append upper last, List.take_append_drop]
  obtain ⟨before, front, length⟩ : ∃ before,
      joinLines (body.take layout.stop) = before ++ joinLines (block body layout) ∧
      byteLength before = offsetBefore body layout.first := by
    rw [take_eq_append_block longer]
    by_cases start : layout.first = 0
    · exact ⟨[], by simp [start], by simp [offsetBefore, start]⟩
    · refine ⟨joinLines (body.take layout.first) ++ ['\n'], ?_, ?_⟩
      · rw [joinLines_append ?_ some]
        · simp
        · exact take_ne_nil (Nat.pos_of_ne_zero start) (by omega)
      · rw [offsetBefore, if_pos ⟨by omega, by omega⟩, byteLength_append]
        rfl
  exact ⟨before, after, by rw [behind, front], length, by rw [← front]; rfl⟩

theorem classify_of_complete {text : String} (complete : isComplete text.toList = true) :
    classify text = some ⟨text, String.ofList (joinLines (bodyOf (rows text.toList))), (layoutOf (rows text.toList)).kind,
      (outputRange (bodyOf (rows text.toList)) (layoutOf (rows text.toList))).1,
      (outputRange (bodyOf (rows text.toList)) (layoutOf (rows text.toList))).2⟩ :=
  if_pos complete

/-- The output stands in the joined body between its two offsets, and is made of the chosen lines. -/
theorem output_split {body : List Line} {layout : Layout} (fits : layout.Fits body) (raw : String) :
    let response : Response := ⟨raw, String.ofList (joinLines body), layout.kind, (outputRange body layout).1,
      (outputRange body layout).2⟩
    response.output = String.ofList (joinLines (block body layout)) ∧
    ∃ before after, response.text = before ++ response.output ++ after ∧
      before.utf8ByteSize = response.outputStart ∧ (before ++ response.output).utf8ByteSize = response.outputEnd := by
  intro response
  by_cases longer : layout.first < layout.stop
  · obtain ⟨before, after, split, start, stop⟩ := joinLines_eq_around_block longer (fits longer)
    have range : outputRange body layout = (offsetBefore body layout.first, offsetThrough body layout.stop) :=
      if_neg (Nat.not_le.mpr longer)
    have output : response.output = String.ofList (joinLines (block body layout)) := by
      simp only [Response.output, response, range, String.toList_ofList]
      rw [split, ← start, ← stop, takeBytes_dropBytes]
    refine ⟨output, String.ofList before, String.ofList after, ?_, ?_, ?_⟩
    · rw [output, ← String.ofList_append, ← String.ofList_append, ← split]
    · rw [← byteLength_eq_utf8ByteSize, start]
      simp only [response, range]
    · rw [output, ← String.ofList_append, ← byteLength_eq_utf8ByteSize, stop]
      simp only [response, range]
  · have range : outputRange body layout = (0, 0) := if_pos (Nat.not_lt.mp longer)
    have output : response.output = "" := by
      simp only [Response.output, response, range, Nat.sub_self]
      rw [takeBytes_zero, String.ofList_nil]
    refine ⟨?_, "", response.text, ?_, ?_, ?_⟩
    · rw [output, block_of_le (Nat.not_lt.mp longer), joinLines_nil, String.ofList_nil]
    · rw [output, String.empty_append, String.empty_append]
    · simp only [response, range, String.utf8ByteSize_empty]
    · rw [output]
      simp only [response, range, String.append_empty, String.utf8ByteSize_empty]

/-- The rows between the echo and the prompt, as they were read. -/
def body (response : Response) : List Line :=
  bodyOf (rows response.raw.toList)

/-- Where the rules put the program's output among the body lines. -/
def layout (response : Response) : Layout :=
  layoutOf (rows response.raw.toList)

theorem text_eq_joinLines {text : String} {response : Response} (classified : classify text = some response) :
    response.text.toList = joinLines response.body := by
  unfold classify at classified
  split at classified <;> cases classified
  exact String.toList_ofList

theorem kind_eq_layout {text : String} {response : Response} (classified : classify text = some response) :
    response.kind = response.layout.kind := by
  unfold classify at classified
  split at classified <;> cases classified
  rfl

theorem output_eq_block {text : String} {response : Response} (classified : classify text = some response) :
    response.output = String.ofList (joinLines (block response.body response.layout)) := by
  unfold classify at classified
  split at classified <;> cases classified
  exact (output_split (fits_layoutOf _) _).1

theorem body_breakFree (response : Response) : ∀ line ∈ response.body, BreakFree line :=
  fun line inside => (cut_rows response.raw.toList).free line (List.mem_of_mem_drop (List.dropLast_subset _ inside))

theorem layout_eq_ofBody {text : String} {response : Response} (classified : classify text = some response)
    (complete : response.kind ≠ .continuation) : response.layout = Layout.ofBody response.body := by
  rw [kind_eq_layout classified] at complete
  unfold layout layoutOf at complete ⊢
  dsimp only at complete ⊢
  split at complete
  · exact absurd rfl complete
  next browsing => exact if_neg browsing

end Response
end RStepper
