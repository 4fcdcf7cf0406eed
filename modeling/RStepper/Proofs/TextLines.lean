import RStepper.Text.Lines

/-! Cutting a text into its lines and putting lines together are inverse to each other, and offsets
that count whole pieces of a text never fall inside a character. -/

namespace RStepper.Text

def BreakFree (line : Line) : Prop :=
  '\n' ∉ line ∧ '\r' ∉ line

instance : DecidablePred BreakFree :=
  fun line => inferInstanceAs (Decidable ('\n' ∉ line ∧ '\r' ∉ line))

theorem BreakFree.nil : BreakFree [] := ⟨List.not_mem_nil, List.not_mem_nil⟩

theorem BreakFree.cons {c : Char} {line : Line} (other : ¬(c = '\n' ∨ c = '\r')) (free : BreakFree line) :
    BreakFree (c :: line) :=
  ⟨List.not_mem_cons_of_ne_of_not_mem (fun same => other (.inl same.symm)) free.1,
    List.not_mem_cons_of_ne_of_not_mem (fun same => other (.inr same.symm)) free.2⟩

theorem BreakFree.tail {c : Char} {line : Line} (free : BreakFree (c :: line)) : BreakFree line :=
  ⟨fun inside => free.1 (.tail _ inside), fun inside => free.2 (.tail _ inside)⟩

theorem BreakFree.head {c : Char} {line : Line} (free : BreakFree (c :: line)) : ¬(c = '\n' ∨ c = '\r') := by
  rintro (rfl | rfl)
  · exact free.1 (.head _)
  · exact free.2 (.head _)

/-- The text is the lines, one behind the other, each but the last ended by a break of its own: LF,
CRLF, or a CR that no LF follows. -/
inductive Cut : List Char → List Line → Prop where
  | last {line} (free : BreakFree line) : Cut line [line]
  | lf {line rest lines} (free : BreakFree line) (more : Cut rest lines) : Cut (line ++ '\n' :: rest) (line :: lines)
  | crlf {line rest lines} (free : BreakFree line) (more : Cut rest lines) :
      Cut (line ++ '\r' :: '\n' :: rest) (line :: lines)
  | cr {line rest lines} (free : BreakFree line) (alone : rest.head? ≠ some '\n') (more : Cut rest lines) :
      Cut (line ++ '\r' :: rest) (line :: lines)

theorem Cut.cons {c : Char} {text : List Char} {line : Line} {lines : List Line} (other : ¬(c = '\n' ∨ c = '\r'))
    (cut : Cut text (line :: lines)) : Cut (c :: text) ((c :: line) :: lines) := by
  cases cut with
  | last free => exact .last (free.cons other)
  | lf free more => exact .lf (free.cons other) more
  | crlf free more => exact .crlf (free.cons other) more
  | cr free alone more => exact .cr (free.cons other) alone more

theorem cut_rows (text : List Char) : Cut text (rows text) := by
  fun_induction rows text with
  | case1 => exact .last .nil
  | case2 rest ih => exact .crlf .nil ih
  | case3 c rest pair ends ih =>
    rcases ends with rfl | rfl
    · exact .lf .nil ih
    · refine .cr .nil ?_ ih
      intro next
      obtain ⟨more, rfl⟩ := List.head?_eq_some_iff.mp next
      exact pair more rfl rfl
  | case4 c rest pair other empty ih => exact absurd empty (rows_ne_nil rest)
  | case5 c rest pair other row more seen ih =>
    rw [seen] at ih
    exact ih.cons other

theorem rows_breakFree {line : Line} (free : BreakFree line) : rows line = [line] := by
  induction line with
  | nil => rfl
  | cons c line ih =>
    have other := free.head
    rw [rows, if_neg other, ih free.tail]
    rintro _ rfl _
    exact other (.inr rfl)

theorem rows_append {line : Line} (free : BreakFree line) {text : List Char} {row : Line} {more : List Line}
    (seen : rows text = row :: more) : rows (line ++ text) = (line ++ row) :: more := by
  induction line with
  | nil => exact seen
  | cons c line ih =>
    have other := free.head
    rw [List.cons_append, rows, if_neg other, ih free.tail]
    · rfl
    · rintro _ rfl _
      exact other (.inr rfl)

theorem Cut.rows_eq {text : List Char} {lines : List Line} (cut : Cut text lines) : rows text = lines := by
  induction cut with
  | last free => exact rows_breakFree free
  | @lf line rest lines free more ih =>
    have begun : rows ('\n' :: rest) = [] :: lines := by
      rw [rows, if_pos (.inl rfl), ih]
      exact fun _ impossible => absurd impossible (by decide)
    simpa using rows_append free begun
  | @crlf line rest lines free more ih =>
    have begun : rows ('\r' :: '\n' :: rest) = [] :: lines := by rw [rows, ih]
    simpa using rows_append free begun
  | @cr line rest lines free alone more ih =>
    have begun : rows ('\r' :: rest) = [] :: lines := by
      rw [rows, if_pos (.inr rfl), ih]
      rintro more _ rfl
      exact alone rfl
    simpa using rows_append free begun

theorem cut_iff {text : List Char} {lines : List Line} : Cut text lines ↔ rows text = lines :=
  ⟨Cut.rows_eq, fun same => same ▸ cut_rows text⟩

theorem Cut.free {text : List Char} {lines : List Line} (cut : Cut text lines) : ∀ line ∈ lines, BreakFree line := by
  induction cut with
  | last free => simpa using free
  | lf free _ ih | crlf free _ ih | cr free _ _ ih => simpa using ⟨free, ih⟩

@[simp] theorem joinLines_nil : joinLines [] = [] := rfl

@[simp] theorem joinLines_singleton (line : Line) : joinLines [line] = line := by
  simp [joinLines]

theorem joinLines_cons_cons (line next : Line) (more : List Line) :
    joinLines (line :: next :: more) = line ++ '\n' :: joinLines (next :: more) := by
  simp [joinLines, List.intercalate]

theorem joinLines_append {upper lower : List Line} (first : upper ≠ []) (second : lower ≠ []) :
    joinLines (upper ++ lower) = joinLines upper ++ '\n' :: joinLines lower := by
  induction upper with
  | nil => contradiction
  | cons line more ih =>
    cases more with
    | nil =>
      obtain ⟨next, rest, rfl⟩ := List.exists_cons_of_ne_nil second
      simp [joinLines_cons_cons]
    | cons next more =>
      have rest := ih (by simp)
      rw [List.cons_append] at rest
      rw [List.cons_append, List.cons_append, joinLines_cons_cons, joinLines_cons_cons, rest]
      simp

theorem cut_joinLines {lines : List Line} (some : lines ≠ []) (free : ∀ line ∈ lines, BreakFree line) :
    Cut (joinLines lines) lines := by
  induction lines with
  | nil => contradiction
  | cons line more ih =>
    cases more with
    | nil => simpa using Cut.last (free line (by simp))
    | cons next more =>
      rw [joinLines_cons_cons]
      exact .lf (free line (by simp)) (ih (by simp) fun other inside => free other (.tail _ inside))

theorem segments_breakFree {line : Line} (free : '\n' ∉ line) : segments line = if line = [] then [] else [line] := by
  induction line with
  | nil => rfl
  | cons c line ih =>
    have other : c ≠ '\n' := fun same => free (same ▸ .head _)
    rw [segments, if_neg other, ih fun inside => free (.tail _ inside)]
    by_cases empty : line = [] <;> simp [empty]

theorem segments_lf {line : Line} (free : '\n' ∉ line) (rest : List Char) :
    segments (line ++ '\n' :: rest) = (line ++ ['\n']) :: segments rest := by
  induction line with
  | nil => simp [segments]
  | cons c line ih =>
    have other : c ≠ '\n' := fun same => free (same ▸ .head _)
    rw [List.cons_append, segments, if_neg other, ih fun inside => free (.tail _ inside)]
    rfl

theorem stripBreak_cons {c : Char} (other : ¬(c = '\n' ∨ c = '\r')) (rest : List Char) :
    stripBreak (c :: rest) = c :: stripBreak rest := by
  rw [stripBreak]
  · rintro rfl
    exact fun _ => other (.inl rfl)
  · rintro rfl
    exact fun _ => other (.inr rfl)

theorem stripBreak_breakFree {line : Line} (free : BreakFree line) : stripBreak line = line := by
  induction line with
  | nil => rfl
  | cons c line ih => rw [stripBreak_cons free.head, ih free.tail]

theorem stripBreak_lf {line : Line} (free : BreakFree line) : stripBreak (line ++ ['\n']) = line := by
  induction line with
  | nil => rfl
  | cons c line ih => rw [List.cons_append, stripBreak_cons free.head, ih free.tail]

/-- Lines put together are found again, but for an empty last one. -/
theorem lines_joinLines {body : List Line} (free : ∀ line ∈ body, BreakFree line) :
    lines (joinLines body) = if body.getLast? = some [] then body.dropLast else body := by
  induction body with
  | nil => rfl
  | cons line more ih =>
    have own := free line (by simp)
    cases more with
    | nil =>
      rw [joinLines_singleton, lines, segments_breakFree own.1]
      by_cases empty : line = []
      · simp [empty]
      · simp [empty, stripBreak_breakFree own]
    | cons next more =>
      have rest := ih fun other inside => free other (.tail _ inside)
      rw [joinLines_cons_cons, lines, segments_lf own.1, List.map_cons, stripBreak_lf own]
      change line :: lines (joinLines (next :: more)) = _
      rw [rest, List.getLast?_cons_cons]
      split <;> rfl

/-- A test that no empty line passes finds the same lines before and after. -/
theorem filter_lines_joinLines {body : List Line} (free : ∀ line ∈ body, BreakFree line) {test : Line → Bool}
    (solid : test [] = false) : (lines (joinLines body)).filter test = body.filter test := by
  rw [lines_joinLines free]
  split
  next empty =>
    obtain ⟨front, rfl⟩ := List.getLast?_eq_some_iff.mp empty
    simp [solid]
  next => rfl

theorem countP_lines_joinLines {body : List Line} (free : ∀ line ∈ body, BreakFree line) {test : Line → Bool}
    (solid : test [] = false) : (lines (joinLines body)).countP test = body.countP test := by
  rw [List.countP_eq_length_filter, filter_lines_joinLines free solid, List.countP_eq_length_filter]

theorem find?_lines_joinLines {body : List Line} (free : ∀ line ∈ body, BreakFree line) {test : Line → Bool}
    (solid : test [] = false) : (lines (joinLines body)).find? test = body.find? test := by
  rw [← List.head?_filter, filter_lines_joinLines free solid, List.head?_filter]

theorem byteLength_eq_utf8ByteSize (text : List Char) : byteLength text = (String.ofList text).utf8ByteSize := by
  induction text with
  | nil => simp
  | cons c rest ih =>
    rw [byteLength_cons, ih, show c :: rest = [c] ++ rest from rfl, String.ofList_append, String.utf8ByteSize_append,
      ← String.singleton_eq_ofList, String.utf8ByteSize_singleton]

theorem takeBytes_zero (text : List Char) : takeBytes 0 text = [] := by
  cases text <;> rfl

theorem takeBytes_dropBytes (before between after : List Char) :
    takeBytes (byteLength (before ++ between) - byteLength before)
      (dropBytes (byteLength before) (before ++ between ++ after)) = between := by
  rw [List.append_assoc, dropBytes_append, byteLength_append, Nat.add_sub_cancel_left, takeBytes_append]

theorem breakFree_iff {line : Line} : BreakFree line ↔ ∀ c ∈ line, c ≠ '\n' ∧ c ≠ '\r' := by
  constructor
  · rintro ⟨lf, cr⟩ c inside
    exact ⟨fun same => lf (same ▸ inside), fun same => cr (same ▸ inside)⟩
  · intro free
    exact ⟨fun inside => (free _ inside).1 rfl, fun inside => (free _ inside).2 rfl⟩

theorem BreakFree.subset {line other : Line} (free : BreakFree line) (inside : other ⊆ line) : BreakFree other :=
  ⟨fun member => free.1 (inside member), fun member => free.2 (inside member)⟩

theorem BreakFree.append {first second : Line} (begun : BreakFree first) (ended : BreakFree second) :
    BreakFree (first ++ second) := by
  simp only [breakFree_iff, List.mem_append] at *
  exact fun c inside => inside.elim (begun c) (ended c)

theorem BreakFree.flatMap {line : Line} {encode : Char → List Char} (free : ∀ c ∈ line, BreakFree (encode c)) :
    BreakFree (line.flatMap encode) := by
  simp only [breakFree_iff, List.mem_flatMap] at *
  rintro c ⟨source, inside, member⟩
  exact free source inside c member

theorem stripBreak_subset (piece : List Char) : stripBreak piece ⊆ piece := by
  fun_induction stripBreak piece with
  | case1 => exact fun _ => id
  | case2 | case3 => exact List.nil_subset _
  | case4 c rest _ _ ih => exact List.cons_subset_cons c ih

theorem subset_of_mem_segments {piece text : List Char} (member : piece ∈ segments text) : piece ⊆ text := by
  induction text generalizing piece with
  | nil => cases member
  | cons c rest ih =>
    rw [segments] at member
    split at member
    next same =>
      rcases List.mem_cons.mp member with rfl | member
      · simp [same]
      · exact fun _ inside => List.mem_cons_of_mem _ (ih member inside)
    next =>
      split at member
      · simp_all
      next first more seen =>
        rcases List.mem_cons.mp member with rfl | member
        · exact List.cons_subset_cons c (ih (by simp [seen]))
        · exact fun _ inside => List.mem_cons_of_mem _ (ih (by simp [seen, member]) inside)

/-- Only the end of a piece is an LF, and goes. -/
theorem lf_not_mem_stripBreak {piece text : List Char} (member : piece ∈ segments text) : '\n' ∉ stripBreak piece := by
  induction text generalizing piece with
  | nil => cases member
  | cons c rest ih =>
    rw [segments] at member
    split at member
    next =>
      rcases List.mem_cons.mp member with rfl | member
      · exact List.not_mem_nil
      · exact ih member
    next other =>
      have longer (piece : List Char) (free : '\n' ∉ stripBreak piece) : '\n' ∉ stripBreak (c :: piece) := by
        unfold stripBreak
        split
        · exact List.not_mem_nil
        · exact List.not_mem_nil
        · exact List.not_mem_nil
        next _ _ _ _ same =>
          cases same
          exact List.not_mem_cons_of_ne_of_not_mem (Ne.symm other) free
      split at member
      · obtain rfl := List.mem_singleton.mp member
        exact longer [] List.not_mem_nil
      next first more seen =>
        rcases List.mem_cons.mp member with rfl | member
        · exact longer first (ih (by simp [seen]))
        · exact ih (by simp [seen, member])

theorem lf_not_mem_lines {line : Line} {text : List Char} (member : line ∈ lines text) : '\n' ∉ line := by
  obtain ⟨piece, inside, rfl⟩ := List.mem_map.mp member
  exact lf_not_mem_stripBreak inside

theorem subset_of_mem_lines {line : Line} {text : List Char} (member : line ∈ lines text) : line ⊆ text := by
  obtain ⟨piece, inside, rfl⟩ := List.mem_map.mp member
  exact fun _ own => subset_of_mem_segments inside (stripBreak_subset piece own)

theorem cr_not_mem_joinLines {body : List Line} (free : ∀ line ∈ body, BreakFree line) : '\r' ∉ joinLines body := by
  induction body with
  | nil => exact List.not_mem_nil
  | cons line more ih =>
    have own := free line List.mem_cons_self
    have rest := ih fun other inside => free other (List.mem_cons_of_mem _ inside)
    cases more with
    | nil => simpa using own.2
    | cons next more => simp [joinLines_cons_cons, own.2, rest]

end RStepper.Text
