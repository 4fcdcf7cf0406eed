import RStepper.Proofs.Announcements

/-! The announcement that a frame reads is the one the rules saw. They work on rows and their numbers; the frame looks
through the joined text again, from a byte offset for a pause and from the last return line for a return. Both stop at the
same line, and it is one that announces the current one. -/

namespace RStepper
open Text Marker

namespace Text

theorem mem_segments_joinLines {body : List Line} (free : ∀ line ∈ body, BreakFree line) {piece : Line}
    (member : piece ∈ segments (joinLines body)) : ∃ line ∈ body, piece = line ∨ piece = line ++ ['\n'] := by
  induction body with
  | nil => cases member
  | cons line more ih =>
    have own := free line List.mem_cons_self
    cases more with
    | nil =>
      rw [joinLines_singleton, segments_breakFree own.1] at member
      split at member
      · cases member
      · exact ⟨line, List.mem_cons_self, .inl (List.mem_singleton.mp member)⟩
    | cons next rest =>
      rw [joinLines_cons_cons, segments_lf own.1] at member
      rcases List.mem_cons.mp member with rfl | member
      · exact ⟨line, List.mem_cons_self, .inr rfl⟩
      · obtain ⟨other, inside, same⟩ := ih (fun other inside => free other (List.mem_cons_of_mem _ inside)) member
        exact ⟨other, List.mem_cons_of_mem _ inside, same⟩

theorem segments_joinLines_append {line : Line} (solid : line ≠ []) {above below : List Line}
    (free : ∀ other ∈ above ++ line :: below, BreakFree other) :
    ∃ before piece, segments (joinLines (above ++ line :: below)) = before ++ piece :: segments (joinLines below) ∧
      line <+: piece := by
  induction above with
  | nil =>
    obtain ⟨piece, cut, start⟩ := segments_joinLines_cons (free line List.mem_cons_self) solid below
    exact ⟨[], piece, cut, start⟩
  | cons first above ih =>
    obtain ⟨before, piece, cut, start⟩ := ih fun other inside => free other (List.mem_cons_of_mem _ inside)
    obtain ⟨next, rest, split⟩ := List.exists_cons_of_ne_nil (show above ++ line :: below ≠ [] by simp)
    refine ⟨(first ++ ['\n']) :: before, piece, ?_, start⟩
    rw [List.cons_append, split, joinLines_cons_cons, segments_lf (free first List.mem_cons_self).1, ← split, cut,
      List.cons_append]

end Text

namespace Marker

/-- No mark reaches beyond its line. -/
theorem startsWith_lf {mark : String} (inside : '\n' ∉ mark.toList) (line : Line) :
    startsWith mark (line ++ ['\n']) = startsWith mark line := by
  apply Bool.eq_iff_iff.mpr
  simp only [startsWith, List.isPrefixOf_iff_prefix, List.prefix_concat_iff]
  constructor
  · rintro (whole | begun)
    · exact absurd (whole ▸ List.mem_append_right _ List.mem_cons_self) inside
    · exact begun
  · exact .inr

theorem isReturning_lf (line : Line) : isReturning (line ++ ['\n']) = isReturning line :=
  startsWith_lf (by decide) line

theorem isCurrentLine_lf (line : Line) : isCurrentLine (line ++ ['\n']) = isCurrentLine line := by
  rw [isCurrentLine, isCurrentLine, isUnnumbered, isUnnumbered, startsWith_lf (by decide), startsWith_lf (by decide),
    startsWith_lf (by decide)]

theorem isReturning_of_prefix {line longer : Line} (returns : isReturning line = true) (start : line <+: longer) :
    isReturning longer = true :=
  List.isPrefixOf_iff_prefix.mpr ((List.isPrefixOf_iff_prefix.mp returns).trans start)

theorem ne_nil_of_isReturning {line : Line} (returns : isReturning line = true) : line ≠ [] := by
  rintro rfl
  exact absurd returns (by decide)

end Marker

namespace Position

/-- Among joined lines the first one that announces the current line is found, and what is below goes with it. -/
theorem announcement?_eq_drop {body : List Line} (free : ∀ line ∈ body, BreakFree line) :
    announcement? (joinLines body) =
      if body.findIdx isCurrentLine < body.length then some (joinLines (body.drop (body.findIdx isCurrentLine)))
      else none := by
  induction body with
  | nil => rfl
  | cons line more ih =>
    have own := free line List.mem_cons_self
    cases current : isCurrentLine line with
    | true => simp [announcement?_joinLines own current, List.findIdx_cons, current]
    | false =>
      have skips (pieces : List Line) (piece : Line) (passed : isCurrentLine piece = false) :
          announcementIn (piece :: pieces) = announcementIn pieces := by
        rw [announcementIn, announcementIn, List.dropWhile_cons_of_pos (by simp [passed])]
      have first : announcement? (joinLines (line :: more)) = announcement? (joinLines more) := by
        cases more with
        | nil =>
          rw [joinLines_singleton, announcement?, segments_breakFree own.1]
          split
          · rfl
          · exact skips [] line current
        | cons next rest =>
          rw [joinLines_cons_cons, announcement?, segments_lf own.1]
          exact skips _ _ (by rw [isCurrentLine_lf, current])
      rw [first, ih fun other inside => free other (List.mem_cons_of_mem _ inside), List.findIdx_cons, current, cond_false]
      simp

theorem announcementAfterReturns?_joinLines {above below : List Line} {call : Line}
    (free : ∀ line ∈ above ++ call :: below, BreakFree line) (returns : isReturning call = true)
    (silent : Silent isReturning below) :
    announcementAfterReturns? (joinLines (above ++ call :: below)) = announcement? (joinLines below) := by
  obtain ⟨before, piece, cut, start⟩ := segments_joinLines_append (ne_nil_of_isReturning returns) free
  have stops : isReturning piece = true := isReturning_of_prefix returns start
  have passes : ∀ other ∈ (segments (joinLines below)).reverse, (!isReturning other) = true := by
    intro other member
    obtain ⟨line, inside, rfl | rfl⟩ :=
      mem_segments_joinLines (fun line inside => free line (by simp [inside])) (List.mem_reverse.mp member)
    · simp [silent _ inside]
    · simp [isReturning_lf, silent _ inside]
  rw [announcementAfterReturns?, cut, List.reverse_append, List.reverse_cons, List.append_assoc,
    List.takeWhile_append_of_pos passes, List.singleton_append, List.takeWhile_cons_of_neg (by simp [stops]),
    List.append_nil, List.reverse_reverse]
  rfl

end Position

theorem Marker.split_of_countP_one {test : Line → Bool} {lines : List Line} (one : lines.countP test = 1) :
    ∃ above line below, lines = above ++ line :: below ∧ test line = true ∧ Silent test above ∧ Silent test below := by
  obtain ⟨line, member, passes⟩ := List.countP_pos_iff.mp (Nat.lt_of_lt_of_eq Nat.zero_lt_one one.symm)
  obtain ⟨first, found⟩ := Option.isSome_iff_exists.mp (List.find?_isSome.mpr ⟨line, member, passes⟩)
  obtain ⟨passes, above, below, rfl, silent⟩ := List.find?_eq_some_iff_append.mp found
  have upper : Silent test above := by simpa [Silent] using silent
  refine ⟨above, first, below, rfl, passes, upper, ?_⟩
  rw [List.countP_append, List.countP_cons_of_pos passes] at one
  have lower : below.countP test = 0 := by omega
  simpa [Silent] using List.countP_eq_zero.mp lower

namespace Layout

/-- The exits of a body whose first line is one begin with it, and end with the last one that leaves room for a return. -/
theorem traceExits_ends {above below : List Line} {exit : Line}
    (first : (above ++ exit :: below).head?.any isTraceExit = true)
    (exits : isTraceExit exit = true) (silent : Silent isTraceExit below) (two : 2 ≤ below.length) :
    (traceExits (above ++ exit :: below)).head? = some 0 ∧
      (traceExits (above ++ exit :: below)).getLast? = some above.length := by
  have all : traceExits (above ++ exit :: below) = (above ++ exit :: below).findIdxs isTraceExit := by
    have split : above ++ exit :: below = (above ++ [exit]) ++ below := by simp
    rw [split]
    exact traceExits_eq two silent
  rw [all]
  constructor
  · cases above with
    | nil => simp [List.findIdxs_cons, exits]
    | cons line above =>
      have own : isTraceExit line = true := by simpa using first
      simp [List.findIdxs_cons, own]
  · rw [List.findIdxs_append, List.findIdxs_cons, exits, List.findIdxs_eq_nil_iff.mpr silent]
    simp

theorem returned?_between {body above between behind : List Line} {exit echo call : Line} {layout : Layout}
    (split : body = above ++ exit :: echo :: (between ++ call :: behind)) (found : returned? body = some layout)
    (first : body.head?.any isTraceExit = true) (exits : isTraceExit exit = true)
    (silent : Silent isTraceExit (echo :: (between ++ call :: behind))) (before : Silent isReturning between)
    (returns : isReturning call = true) :
    let upper := above ++ exit :: echo :: between
    layout.first = upper.length + 1 ∧ layout.stop = upper.length + 1 + behind.findIdx isCurrentLine := by
  intro upper
  have two : 2 ≤ (echo :: (between ++ call :: behind)).length := by
    simp only [List.length_cons, List.length_append]
    omega
  obtain ⟨head, last⟩ := traceExits_ends (split ▸ first) exits silent two
  rw [← split] at head last
  have start : indexFrom isReturning (above.length + 2) body = upper.length := by
    have room : above.length + 2 = (above ++ [exit, echo]).length := by simp
    have lines : body = (above ++ [exit, echo]) ++ (between ++ call :: behind) := by simp [split]
    rw [lines, room, indexFrom_append, findIdx_silent before, List.findIdx_cons, returns]
    simp [upper]
    omega
  have stop : indexFrom isCurrentLine (upper.length + 1) body = upper.length + 1 + behind.findIdx isCurrentLine := by
    have room : upper.length + 1 = (upper ++ [call]).length := by simp
    have lines : body = (upper ++ [call]) ++ behind := by simp [split, upper]
    rw [lines, room, indexFrom_append]
  unfold returned? at found
  cases seen : traceExits body with
  | nil => simp [seen] at head
  | cons index others =>
    have zero : index = 0 := by simpa [seen] using head
    have final : others.getLastD index = above.length := by
      simpa [seen, List.getLast?_cons, List.getLastD_eq_getLast?] using last
    simp only [seen] at found
    rw [final, start, if_pos zero, stop] at found
    cases found
    exact ⟨rfl, rfl⟩

end Layout

namespace Response

theorem rule_of_returned {text : String} {response : Response} (classified : classify text = some response)
    (kind : response.kind ∈ [Kind.returned, .returnedMany]) : Layout.returned? response.body = some response.layout := by
  have ruled := layout_eq_ofBody classified (by rintro same; simp [same] at kind)
  have sort := kind_eq_layout classified
  rw [ruled] at sort ⊢
  rcases Layout.ofBody_returning (sort ▸ List.mem_cons_of_mem _ kind) with found | found
  · rw [sort, Layout.kind_reentered found] at kind
    simp at kind
  · exact found

/-- Behind returns the announcement is at the line where the output stops, and the output ends with the body where there is
none. -/
theorem announcementAfterReturns?_eq_drop {text : String} {response : Response} (classified : classify text = some response)
    (kind : response.kind ∈ [Kind.returned, .returnedMany]) {above below : List Line} {exit : Line}
    (split : response.body = above ++ exit :: below) (first : response.body.head?.any isTraceExit = true)
    (exits : isTraceExit exit = true) (silent : Silent isTraceExit below) (one : (below.drop 1).countP isReturning = 1) :
    let stop := response.layout.stop
    stop ≤ response.body.length ∧ (∀ mark, response.body[stop]? = some mark → isCurrentLine mark = true) ∧
      Position.announcementAfterReturns? response.text.toList =
        if stop < response.body.length then some (joinLines (response.body.drop stop)) else none := by
  intro stop
  have found := rule_of_returned classified kind
  have free := response.body_breakFree
  have text := text_eq_joinLines classified
  obtain ⟨between, call, behind, lower, returns, before, after⟩ := split_of_countP_one one
  obtain ⟨echo, rfl⟩ : ∃ echo, below = echo :: (between ++ call :: behind) := by
    cases below with
    | nil => simp at lower
    | cons echo rest => exact ⟨echo, by rw [← lower, List.drop_one, List.tail_cons]⟩
  obtain ⟨_, ends⟩ := Layout.returned?_between split found first exits silent before returns
  have whole : response.body = (above ++ exit :: echo :: between) ++ call :: behind := by simp [split]
  generalize above ++ exit :: echo :: between = upper at ends whole
  have room : upper.length + 1 = (upper ++ [call]).length := by simp
  have cut : response.body = (upper ++ [call]) ++ behind := by simp [whole]
  have inside : stop < response.body.length ↔ behind.findIdx isCurrentLine < behind.length := by
    simp only [stop, ends, cut, room, List.length_append]
    omega
  refine ⟨?_, ?_, ?_⟩
  · have bound : behind.findIdx isCurrentLine ≤ behind.length := List.findIdx_le_length
    simp only [stop, ends, cut, room, List.length_append]
    omega
  · intro mark seen
    rw [show stop = _ from ends, cut, room, List.getElem?_append_right (Nat.le_add_right ..),
      Nat.add_sub_cancel_left] at seen
    obtain ⟨bound, rfl⟩ := List.getElem?_eq_some_iff.mp seen
    exact List.findIdx_getElem
  · rw [whole] at free text
    rw [text, Position.announcementAfterReturns?_joinLines free returns after,
      Position.announcement?_eq_drop fun line member => free line (by simp [member])]
    have rest : response.body.drop stop = behind.drop (behind.findIdx isCurrentLine) := by
      rw [show stop = _ from ends, cut, room, List.drop_length_add_append]
    rw [rest]
    simp only [inside]

/-- The frame's announcement begins at the line where the rules end the output. Behind a pause that is the first line that
announces the current one; behind returns there may be none, and then the output ends with the body. -/
theorem announced_at_stop {text : String} {response : Response} (classified : classify text = some response) :
    let body := response.body
    let stop := response.layout.stop
    (response.kind = .paused →
      stop = body.findIdx isCurrentLine ∧ stop < body.length ∧
        response.output = String.ofList (joinLines (body.take stop)) ∧
        CallFrame.announcedBy response = some (joinLines (body.drop stop))) ∧
    (response.kind ∈ [Kind.returned, .returnedMany] → ∀ above exit below, body = above ++ exit :: below →
      body.head?.any isTraceExit = true → isTraceExit exit = true → Silent isTraceExit below →
      (below.drop 1).countP isReturning = 1 →
      stop ≤ body.length ∧ (∀ mark, body[stop]? = some mark → isCurrentLine mark = true) ∧
        response.output = String.ofList (joinLines ((body.take stop).drop response.layout.first)) ∧
        Position.announcementAfterReturns? response.text.toList =
          if stop < body.length then some (joinLines (body.drop stop)) else none) := by
  intro body stop
  have output := output_eq_block classified
  constructor
  · intro paused
    obtain ⟨start, first, inside⟩ := Layout.paused?_stop (rule_of_paused classified paused)
    refine ⟨first, inside, ?_, announcedBy_eq_drop classified paused⟩
    rw [output, block, start, List.drop_zero]
  · intro kind above exit below split first exits silent one
    obtain ⟨bound, current, announced⟩ := announcementAfterReturns?_eq_drop classified kind split first exits silent one
    exact ⟨bound, current, output, announced⟩

/-- The program prints an empty line before a pause, and one behind the return of a call. -/
theorem emptyLines_announced : ∃ pause leaving,
    classify "n\n\ndebug at #2: y\nz\nBrowse[2]> " = some pause ∧ pause.kind = .paused ∧
      CallFrame.announcedBy pause = some "debug at #2: y\nz".toList ∧
    classify "n\nTracing g() on exit\n[1] 7\nexiting from: g()\n\ndebug at #3: y\nBrowse[1]> " = some leaving ∧
      leaving.kind = .returned ∧
      Position.announcementAfterReturns? leaving.text.toList = some "debug at #3: y".toList := by
  have paused := classify_of_complete
    (by decide +kernel : isComplete "n\n\ndebug at #2: y\nz\nBrowse[2]> ".toList = true)
  have returned := classify_of_complete (by decide +kernel :
    isComplete "n\nTracing g() on exit\n[1] 7\nexiting from: g()\n\ndebug at #3: y\nBrowse[1]> ".toList = true)
  obtain ⟨_, _, _, announced⟩ := (announced_at_stop paused).1 (by decide +kernel)
  obtain ⟨_, _, _, behind⟩ := (announced_at_stop returned).2 (by decide +kernel) []
    "Tracing g() on exit".toList ["[1] 7".toList, "exiting from: g()".toList, [], "debug at #3: y".toList]
    (by decide +kernel) (by decide +kernel) (by decide +kernel)
    (by unfold Silent; decide +kernel) (by decide +kernel)
  refine ⟨_, _, paused, by decide +kernel, announced.trans (by decide +kernel), returned, by decide +kernel, ?_⟩
  exact behind.trans (by decide +kernel)

end Response
end RStepper
