import RStepper.Proofs.ResponseRange

/-! What a response is read from: its lines, and of these the ones below the echo. Neither the sort of break that ends a
line nor what the first line says is seen in anything but the raw text. -/

namespace RStepper
open Text Marker

namespace Text

/-- Every CRLF as an LF. -/
def foldPairs : List Char → List Char
  | [] => []
  | '\r' :: '\n' :: rest => '\n' :: foldPairs rest
  | c :: rest => c :: foldPairs rest

/-- Every CRLF, and then every CR that is left, as an LF. -/
def plainBreaks (text : List Char) : List Char :=
  (foldPairs text).map fun c => if c = '\r' then '\n' else c

/-- The text with another first line in front of its first break. -/
def withFirstLine (line : Line) (text : List Char) : List Char :=
  line ++ text.dropWhile fun c => c ≠ '\n' ∧ c ≠ '\r'

theorem foldPairs_cons {c : Char} {rest : List Char} (apart : c = '\r' → rest.head? ≠ some '\n') :
    foldPairs (c :: rest) = c :: foldPairs rest := by
  rw [foldPairs]
  rintro more rfl rfl
  exact apart rfl rfl

theorem plainBreaks_pair (rest : List Char) : plainBreaks ('\r' :: '\n' :: rest) = '\n' :: plainBreaks rest := rfl

theorem plainBreaks_lf (rest : List Char) : plainBreaks ('\n' :: rest) = '\n' :: plainBreaks rest := by
  rw [plainBreaks, foldPairs_cons (by simp)]
  rfl

theorem plainBreaks_cr {rest : List Char} (alone : rest.head? ≠ some '\n') :
    plainBreaks ('\r' :: rest) = '\n' :: plainBreaks rest := by
  rw [plainBreaks, foldPairs_cons fun _ => alone]
  rfl

theorem plainBreaks_append {line : Line} (free : BreakFree line) (text : List Char) :
    plainBreaks (line ++ text) = line ++ plainBreaks text := by
  induction line with
  | nil => rfl
  | cons c line ih =>
    have other := free.head
    have folded : foldPairs (c :: (line ++ text)) = c :: foldPairs (line ++ text) :=
      foldPairs_cons fun same => absurd (.inr same) other
    rw [List.cons_append, plainBreaks, folded, List.map_cons, if_neg fun same => other (.inr same)]
    exact congrArg (c :: ·) (ih free.tail)

theorem joinLines_cons_of_ne_nil (line : Line) {more : List Line} (some : more ≠ []) :
    joinLines (line :: more) = line ++ '\n' :: joinLines more := by
  simpa using joinLines_append (List.cons_ne_nil line []) some

theorem Cut.ne_nil {text : List Char} {lines : List Line} (cut : Cut text lines) : lines ≠ [] :=
  cut.rows_eq ▸ rows_ne_nil text

/-- With plain breaks a text is its lines, put one under the other. -/
theorem Cut.plainBreaks_eq {text : List Char} {lines : List Line} (cut : Cut text lines) :
    plainBreaks text = joinLines lines := by
  induction cut with
  | @last line free =>
    have same := plainBreaks_append free []
    rw [List.append_nil] at same
    rw [same, joinLines_singleton]
    exact List.append_nil line
  | lf free more ih => rw [plainBreaks_append free, plainBreaks_lf, ih, joinLines_cons_of_ne_nil _ more.ne_nil]
  | crlf free more ih => rw [plainBreaks_append free, plainBreaks_pair, ih, joinLines_cons_of_ne_nil _ more.ne_nil]
  | cr free alone more ih => rw [plainBreaks_append free, plainBreaks_cr alone, ih, joinLines_cons_of_ne_nil _ more.ne_nil]

theorem rows_plainBreaks (text : List Char) : rows (plainBreaks text) = rows text := by
  have cut := cut_rows text
  rw [cut.plainBreaks_eq]
  exact (cut_joinLines cut.ne_nil cut.free).rows_eq

theorem withFirstLine_append {first : Line} (free : BreakFree first) (line : Line) (rest : List Char)
    (broken : rest.head?.all fun c => c = '\n' ∨ c = '\r') : withFirstLine line (first ++ rest) = line ++ rest := by
  have inside : ∀ c ∈ first, decide (c ≠ '\n' ∧ c ≠ '\r') = true := by
    intro c member
    simpa using breakFree_iff.mp free c member
  rw [withFirstLine, List.dropWhile_append_of_pos inside]
  cases rest with
  | nil => rfl
  | cons c rest =>
    rw [List.dropWhile_cons_of_neg]
    simpa [← or_iff_not_imp_left] using broken

theorem cut_withFirstLine {text : List Char} {first line : Line} {more : List Line} (cut : Cut text (first :: more))
    (free : BreakFree line) : Cut (withFirstLine line text) (line :: more) := by
  cases cut with
  | last own =>
    have same := withFirstLine_append own line [] rfl
    rw [List.append_nil, List.append_nil] at same
    rw [same]
    exact .last free
  | lf own below =>
    rw [withFirstLine_append own line _ rfl]
    exact .lf free below
  | crlf own below =>
    rw [withFirstLine_append own line _ rfl]
    exact .crlf free below
  | cr own alone below =>
    rw [withFirstLine_append own line _ rfl]
    exact .cr free alone below

theorem tail_rows_withFirstLine {line : Line} (free : BreakFree line) (text : List Char) :
    (rows (withFirstLine line text)).tail = (rows text).tail := by
  obtain ⟨first, more, seen⟩ := List.exists_cons_of_ne_nil (rows_ne_nil text)
  rw [(cut_withFirstLine (cut_iff.mpr seen) free).rows_eq, seen]
  rfl

end Text

namespace Marker

/-- Lines that end in a prompt, with at least one line in front of it. -/
def EndInPrompt (lines : List Line) : Prop :=
  ∃ earlier prompt, earlier ≠ [] ∧ lines = earlier ++ [prompt] ∧ (prompt = continuationPrompt.toList ∨ IsPrompt prompt)

theorem isComplete_iff_endInPrompt {text : List Char} {lines : List Line} (cut : Cut text lines) :
    isComplete text = true ↔ EndInPrompt lines := by
  rw [isComplete_iff]
  constructor
  · rintro ⟨command, body, prompt, found, prompted⟩
    have same : lines = command :: (body ++ [prompt]) := cut.rows_eq.symm.trans found.rows_eq
    exact ⟨command :: body, prompt, by simp, same, prompted⟩
  · rintro ⟨earlier, prompt, some, rfl, prompted⟩
    obtain ⟨command, body, rfl⟩ := List.exists_cons_of_ne_nil some
    exact ⟨command, body, prompt, cut, prompted⟩

theorem endInPrompt_cons (first other : Line) (more : List Line) :
    EndInPrompt (first :: more) ↔ EndInPrompt (other :: more) := by
  have replaced {first other : Line} : EndInPrompt (first :: more) → EndInPrompt (other :: more) := by
    rintro ⟨earlier, prompt, some, same, prompted⟩
    obtain ⟨_, body, rfl⟩ := List.exists_cons_of_ne_nil some
    refine ⟨other :: body, prompt, by simp, ?_, prompted⟩
    rw [(List.cons.inj same).2]
    rfl
  exact ⟨replaced, replaced⟩

/-- Whether a text is complete is seen below its first line. -/
theorem isComplete_congr {text other : List Char} (same : (rows text).tail = (rows other).tail) :
    isComplete text = isComplete other := by
  obtain ⟨first, more, seen⟩ := List.exists_cons_of_ne_nil (rows_ne_nil text)
  obtain ⟨second, further, read⟩ := List.exists_cons_of_ne_nil (rows_ne_nil other)
  obtain rfl : more = further := by rwa [seen, read] at same
  rw [Bool.eq_iff_iff, isComplete_iff_endInPrompt (cut_iff.mpr seen), isComplete_iff_endInPrompt (cut_iff.mpr read)]
  exact endInPrompt_cons first second more

end Marker

namespace Response

/-- Everything that is read off a text: the kind, the cleaned text, and the two ends of the output in it. -/
def reading (response : Response) : Kind × String × Nat × Nat :=
  (response.kind, response.text, response.outputStart, response.outputEnd)

theorem reading_congr {text other : String} (same : (rows text.toList).tail = (rows other.toList).tail) :
    (classify text).map reading = (classify other).map reading := by
  have both := isComplete_congr same
  cases complete : isComplete text.toList with
  | false =>
    rw [complete] at both
    simp [classify, complete, ← both]
  | true =>
    -- The echo of a complete text is not its prompt, so the prompt is among the lines that the texts share.
    obtain ⟨command, body, prompt, cut, _⟩ := isComplete_iff.mp complete
    obtain ⟨echo, below, read⟩ := List.exists_cons_of_ne_nil (rows_ne_nil other.toList)
    have seen := cut.rows_eq
    rw [seen, read] at same
    obtain rfl : body ++ [prompt] = below := same
    rw [classify_of_complete complete, classify_of_complete (both ▸ complete), seen, read]
    simp only [Option.map_some, reading, bodyOf_append, layoutOf_append]

/-- A text is complete exactly if it is two lines or more and the last of them is a prompt. Only a complete text is
classified, with plain breaks it is classified in the same way, and any other first line would do. -/
theorem classified_by_lines_below (text : String) :
    let plain := String.ofList (plainBreaks text.toList)
    (isComplete text.toList = true ↔ ∃ lines, Cut text.toList lines ∧ EndInPrompt lines) ∧
    (classify text).isSome = isComplete text.toList ∧
    isComplete plain.toList = isComplete text.toList ∧ (classify plain).map reading = (classify text).map reading ∧
    ∀ echo, BreakFree echo →
      let other := String.ofList (withFirstLine echo text.toList)
      isComplete other.toList = isComplete text.toList ∧ (classify other).map reading = (classify text).map reading := by
  intro plain
  have below : (rows plain.toList).tail = (rows text.toList).tail := by
    rw [String.toList_ofList, rows_plainBreaks]
  refine ⟨?_, ?_, isComplete_congr below, reading_congr below, ?_⟩
  · constructor
    · intro complete
      exact ⟨_, cut_rows _, (isComplete_iff_endInPrompt (cut_rows _)).mp complete⟩
    · rintro ⟨lines, cut, prompted⟩
      exact (isComplete_iff_endInPrompt cut).mpr prompted
  · cases complete : isComplete text.toList with
    | false => simp [classify, complete]
    | true => rw [classify_of_complete complete, Option.isSome_some]
  · intro echo free other
    have kept : (rows other.toList).tail = (rows text.toList).tail := by
      rw [String.toList_ofList, tail_rows_withFirstLine free]
    exact ⟨isComplete_congr kept, reading_congr kept⟩

/-- CRLF, a lone CR and LF in one text, an empty line among them, and another echo. -/
theorem mixedBreaks_classified :
    let text := "f()\r\n[1] 1\r\rdebug at #2: y\nBrowse[12]> "
    BreakFree "g(1)".toList ∧ (classify text).map reading = some (.paused, "[1] 1\n\ndebug at #2: y", 0, 6) ∧
      (classify "f()\n[1] 1\n\ndebug at #2: y\nBrowse[12]> ").map reading = (classify text).map reading ∧
      (classify "g(1)\r\n[1] 1\r\rdebug at #2: y\nBrowse[12]> ").map reading = (classify text).map reading := by
  intro text
  have free : BreakFree "g(1)".toList := by decide
  obtain ⟨_, _, _, plain, others⟩ := classified_by_lines_below text
  have plainly : String.ofList (plainBreaks text.toList) = "f()\n[1] 1\n\ndebug at #2: y\nBrowse[12]> " := by decide +kernel
  have echoed : String.ofList (withFirstLine "g(1)".toList text.toList) =
      "g(1)\r\n[1] 1\r\rdebug at #2: y\nBrowse[12]> " := by decide +kernel
  rw [plainly] at plain
  have other := (others "g(1)".toList free).2
  rw [echoed] at other
  exact ⟨free, by decide +kernel, plain, other⟩

end Response
end RStepper
