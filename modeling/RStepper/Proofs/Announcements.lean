import RStepper.Proofs.ReturnCounts

/-! What a pause announces: its first line that announces the current one, with everything below it. Whether that is the
head of a loop, and which number it has, is decided by the announcing line alone. -/

namespace RStepper
open Text Marker

namespace Text

theorem flatten_segments (text : List Char) : (segments text).flatten = text := by
  induction text with
  | nil => rfl
  | cons c rest ih =>
    rw [segments]
    split
    next lf => simp [ih, lf]
    next =>
      split
      next none => simpa [none] using ih
      next piece more pieces => simpa [pieces] using ih

theorem joinLines_cons (line : Line) (more : List Line) : ∃ behind, joinLines (line :: more) = line ++ behind := by
  cases more with
  | nil => exact ⟨[], by simp⟩
  | cons next rest => exact ⟨_, joinLines_cons_cons line next rest⟩

theorem segments_joinLines_cons {line : Line} (free : BreakFree line) (solid : line ≠ []) (more : List Line) :
    ∃ piece, segments (joinLines (line :: more)) = piece :: segments (joinLines more) ∧ line <+: piece := by
  cases more with
  | nil => exact ⟨line, by simp [segments_breakFree free.1, solid, segments], List.prefix_rfl⟩
  | cons next rest =>
    rw [joinLines_cons_cons, segments_lf free.1]
    exact ⟨_, rfl, List.prefix_append ..⟩

theorem head?_lines_joinLines {line : Line} {more : List Line} (free : ∀ other ∈ line :: more, BreakFree other)
    (solid : line ≠ []) : (lines (joinLines (line :: more))).head? = some line := by
  rw [lines_joinLines free]
  split
  next empty =>
    cases more with
    | nil => exact absurd (Option.some.inj empty) solid
    | cons next rest => rfl
  next => rfl

end Text

namespace Marker

theorem ne_nil_of_isCurrentLine {line : Line} (current : isCurrentLine line = true) : line ≠ [] := by
  rintro rfl
  exact absurd current (by decide)

theorem isCurrentLine_of_prefix {line longer : Line} (current : isCurrentLine line = true) (start : line <+: longer) :
    isCurrentLine longer = true := by
  have starts (mark : String) (begun : startsWith mark line = true) : startsWith mark longer = true :=
    List.isPrefixOf_iff_prefix.mpr ((List.isPrefixOf_iff_prefix.mp begun).trans start)
  simp only [isCurrentLine, isUnnumbered, Bool.or_eq_true] at current ⊢
  exact current.imp (Or.imp (starts _) (starts _)) (starts _)

end Marker

namespace Position

theorem announcement?_joinLines {mark : Line} (free : BreakFree mark) (current : isCurrentLine mark = true) (more : List Line) :
    announcement? (joinLines (mark :: more)) = some (joinLines (mark :: more)) := by
  obtain ⟨piece, cut, start⟩ := segments_joinLines_cons free (ne_nil_of_isCurrentLine current) more
  have stops : isCurrentLine piece = true := isCurrentLine_of_prefix current start
  have whole := flatten_segments (joinLines (mark :: more))
  rw [cut] at whole
  rw [announcement?, announcementIn, cut, List.dropWhile_cons_of_neg (by simp [stops])]
  exact congrArg some whole

theorem announcement?_lf (text : List Char) : announcement? ('\n' :: text) = announcement? text := by
  have blank : isCurrentLine ['\n'] = false := by decide
  rw [announcement?, announcement?, announcementIn, announcementIn, segments, if_pos rfl,
    List.dropWhile_cons_of_pos (by simp [blank])]

theorem isLoopHeader_joinLines {line : Line} {more : List Line} (free : ∀ other ∈ line :: more, BreakFree other)
    (solid : line ≠ []) : isLoopHeader (joinLines (line :: more)) = isLoopHeader line := by
  have alone : (lines line).head? = some line := by
    have own : ∀ other ∈ [line], BreakFree other := by simpa using free line List.mem_cons_self
    simpa using head?_lines_joinLines own solid
  rw [isLoopHeader, isLoopHeader, head?_lines_joinLines free solid, alone]

/-- The number behind one of the two marks is read back, whatever follows its digits. -/
theorem lineNumber?_numbered {mark : String} (numbered : mark = sourceLineMark ∨ mark = plainLineMark) {digits rest : List Char}
    (some : digits ≠ []) (decimal : digits.all Char.isDigit = true) (small : digitsValue digits ≤ 2147483647)
    (stops : rest.head?.any Char.isDigit = false) :
    lineNumber? (mark.toList ++ (digits ++ rest)) = Option.some (digitsValue digits : Int) := by
  have taken : (digits ++ rest).takeWhile Char.isDigit = digits := by
    rw [List.takeWhile_append_of_pos (List.all_eq_true.mp decimal)]
    cases rest with
    | nil => simp
    | cons c more => rw [List.takeWhile_cons_of_neg (by simpa using stops), List.append_nil]
  have read : readInt? 0 highestLine digits = Option.some (digitsValue digits : Int) := by
    have number : readDigits? digits = Option.some (digitsValue digits) := if_pos ⟨some, decimal⟩
    have inRange : (digitsValue digits : Int) ≤ highestLine := by
      rw [highestLine]
      omega
    unfold readInt?
    split
    next signed _ =>
      have digit := List.all_eq_true.mp decimal '-' (by simp)
      cases digit
    next =>
      have digit := List.all_eq_true.mp decimal '+' (by simp)
      cases digit
    next => simp [number, inRange]
  have behind : (stripStart sourceLineMark (mark.toList ++ (digits ++ rest))).or
      (stripStart plainLineMark (mark.toList ++ (digits ++ rest))) = Option.some (digits ++ rest) := by
    rcases numbered with rfl | rfl
    · rw [stripStart, List.isPrefixOf?_eq_some_iff_append_eq.mpr rfl, Option.some_or]
    · have other : stripStart sourceLineMark (plainLineMark.toList ++ (digits ++ rest)) = none := rfl
      rw [other, Option.none_or, stripStart, List.isPrefixOf?_eq_some_iff_append_eq.mpr rfl]
  rw [lineNumber?, behind, Option.bind_some, taken, read]

end Position

namespace Layout

theorem paused?_stop {body : List Line} {layout : Layout} (found : paused? body = some layout) :
    layout.first = 0 ∧ layout.stop = body.findIdx isCurrentLine ∧ layout.stop < body.length := by
  unfold paused? indexFrom at found
  simp only [List.drop_zero, Nat.zero_add] at found
  split at found
  · cases found
  next inside =>
    cases found
    simp only [Bool.or_eq_true, decide_eq_true_eq, not_or, Nat.not_le] at inside
    exact ⟨rfl, rfl, inside.2⟩

end Layout

namespace Response

/-- Behind the output of a pause stands the line that announces the current one, or the break above it. -/
theorem dropBytes_output (above below : List Line) (mark : Line) :
    let body := above ++ mark :: below
    let behind := dropBytes (outputRange body ⟨.paused, 0, above.length⟩).2 (joinLines body)
    behind = joinLines (mark :: below) ∨ behind = '\n' :: joinLines (mark :: below) := by
  intro body behind
  cases above with
  | nil =>
    left
    simpa [behind, body, outputRange] using dropBytes_append [] (joinLines (mark :: below))
  | cons line lines =>
    right
    have range : outputRange body ⟨.paused, 0, (line :: lines).length⟩ = (0, byteLength (joinLines (line :: lines))) := by
      simp [outputRange, offsetBefore, offsetThrough, body]
    simp only [behind, range, body]
    rw [joinLines_append (by simp) (by simp), dropBytes_append]

theorem rule_of_paused {text : String} {response : Response} (classified : classify text = some response)
    (paused : response.kind = .paused) : Layout.paused? response.body = some response.layout := by
  have ruled := layout_eq_ofBody classified (by simp [paused])
  rw [ruled]
  apply Layout.ofBody_pausing
  rw [← ruled, ← kind_eq_layout classified, paused]

theorem announcement?_behind {body : List Line} {stop : Nat} (inside : stop < body.length) :
    Position.announcement? (dropBytes (outputRange body ⟨.paused, 0, stop⟩).2 (joinLines body)) =
      Position.announcement? (joinLines (body.drop stop)) := by
  have upper : (body.take stop).length = stop := List.length_take_of_le (Nat.le_of_lt inside)
  have below := List.drop_eq_getElem_cons inside
  have behind := dropBytes_output (body.take stop) (body.drop (stop + 1)) body[stop]
  rw [upper, ← below, List.take_append_drop] at behind
  rcases behind with same | broken
  · rw [same]
  · rw [broken, Position.announcement?_lf]

theorem announcedBy_eq {text : String} {response : Response} (classified : classify text = some response) :
    CallFrame.announcedBy response =
      Position.announcement? (dropBytes (outputRange response.body response.layout).2 (joinLines response.body)) := by
  unfold classify at classified
  split at classified <;> cases classified
  rw [CallFrame.announcedBy, String.toList_ofList]
  rfl

theorem announcedBy_eq_drop {text : String} {response : Response} (classified : classify text = some response)
    (paused : response.kind = .paused) :
    CallFrame.announcedBy response = some (joinLines (response.body.drop response.layout.stop)) := by
  obtain ⟨start, stop, inside⟩ := Layout.paused?_stop (rule_of_paused classified paused)
  have ruled : response.layout = ⟨.paused, 0, response.layout.stop⟩ := by
    rw [← paused, kind_eq_layout classified, ← start]
  have current : isCurrentLine response.body[response.layout.stop] = true := by
    simp only [stop]
    exact List.findIdx_getElem
  have own : BreakFree response.body[response.layout.stop] := response.body_breakFree _ (List.getElem_mem inside)
  rw [announcedBy_eq classified, ruled, announcement?_behind inside, List.drop_eq_getElem_cons inside]
  exact Position.announcement?_joinLines own current _

/-- The announcement of a pause begins with its first line that announces the current one. -/
theorem announcedBy_of_paused {text : String} {response : Response} (classified : classify text = some response)
    (paused : response.kind = .paused) {mark : Line} (first : (lines response.text.toList).find? isCurrentLine = some mark) :
    ∃ more, (∀ line ∈ mark :: more, BreakFree line) ∧ CallFrame.announcedBy response = some (joinLines (mark :: more)) := by
  have free := response.body_breakFree
  rw [text_eq_joinLines classified, find?_lines_joinLines free (by decide)] at first
  obtain ⟨current, above, below, split, others⟩ := List.find?_eq_some_iff_append.mp first
  obtain ⟨_, stop, _⟩ := Layout.paused?_stop (rule_of_paused classified paused)
  have silent : Silent isCurrentLine above := by simpa [Silent] using others
  rw [split, Layout.findIdx_silent silent, List.findIdx_cons, current, cond_true, Nat.add_zero] at stop
  rw [split] at free
  refine ⟨below, fun line inside => free line (List.mem_append_right _ inside), ?_⟩
  rw [announcedBy_eq_drop classified paused, stop, split, List.drop_left]

end Response
end RStepper
