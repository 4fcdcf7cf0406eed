import Mathlib.Data.List.TakeWhile
import RStepper.Text.Blank

/-! Texts with blanks around them and between their words. Every text is blank, or blanks with something solid
between them, and taking the first word off a trimmed text leaves what stood behind it. -/

namespace RStepper.Text

def AllBlank (text : List Char) : Prop :=
  ∀ c ∈ text, isBlank c = true

structure IsWord (word : List Char) : Prop where
  nonempty : word ≠ []
  solid : ∀ c ∈ word, isBlank c = false

/-- A text that begins and ends with something else than a blank. -/
structure IsTrimmed (text : List Char) : Prop where
  first : ∃ c, text.head? = some c ∧ isBlank c = false
  last : ∃ c, text.getLast? = some c ∧ isBlank c = false

/-- What can follow a word: nothing, or something that begins with a blank. -/
def Apart (rest : List Char) : Prop :=
  ∀ c, rest.head? = some c → isBlank c = true

/-- Behind any blanks the text begins with the word, and the rest is what follows. -/
def FirstWord (text word rest : List Char) : Prop :=
  ∃ lead, AllBlank lead ∧ IsWord word ∧ Apart rest ∧ text = lead ++ (word ++ rest)

/-- The text is the core with any blanks around it. -/
def Padded (text core : List Char) : Prop :=
  ∃ lead trail, AllBlank lead ∧ IsTrimmed core ∧ AllBlank trail ∧ text = lead ++ (core ++ trail)

/-- The words of a text, parted by blanks. -/
def wordsOf (text : List Char) : List (List Char) :=
  (text.splitOnP isBlank).filter (!·.isEmpty)

theorem trimEnd_append_blanks {blanks : List Char} (allBlank : ∀ c ∈ blanks, isBlank c = true) (text : List Char) :
    trimEnd (text ++ blanks) = trimEnd text := by
  have reversed : ∀ c ∈ blanks.reverse, isBlank c = true := fun c member => allBlank c (List.mem_reverse.mp member)
  rw [trimEnd, List.reverse_append, List.dropWhile_append_of_pos reversed, trimEnd]

theorem trimEnd_concat {c : Char} (text : List Char) (solid : isBlank c = false) : trimEnd (text ++ [c]) = text ++ [c] := by
  simp [trimEnd, solid]

/-- Trimming leaves a beginning of the text, and all of it but blanks. -/
theorem trimEnd_append (text : List Char) : ∃ blanks, trimEnd text ++ blanks = text ∧ ∀ c ∈ blanks, isBlank c = true := by
  refine ⟨(text.reverse.takeWhile isBlank).reverse, ?_, ?_⟩
  · rw [trimEnd, ← List.reverse_append, List.takeWhile_append_dropWhile, List.reverse_reverse]
  · intro c member
    exact List.mem_takeWhile_imp (List.mem_reverse.mp member)

theorem AllBlank.nil : AllBlank [] := nofun

theorem AllBlank.cons {c : Char} {text : List Char} (first : isBlank c = true) (blank : AllBlank text) :
    AllBlank (c :: text) :=
  List.forall_mem_cons.mpr ⟨first, blank⟩

theorem AllBlank.tail {text : List Char} (blank : AllBlank text) : AllBlank text.tail :=
  fun c member => blank c (List.mem_of_mem_tail member)

theorem IsWord.isTrimmed {word : List Char} (isWord : IsWord word) : IsTrimmed word where
  first := ⟨_, List.head?_eq_some_head isWord.nonempty, isWord.solid _ (List.head_mem _)⟩
  last := ⟨_, List.getLast?_eq_some_getLast isWord.nonempty, isWord.solid _ (List.getLast_mem _)⟩

theorem IsTrimmed.ne_nil {core : List Char} (trimmed : IsTrimmed core) : core ≠ [] := by
  rintro rfl
  obtain ⟨c, first, _⟩ := trimmed.first
  cases first

theorem IsTrimmed.append {word core : List Char} (isWord : IsWord word) (trimmed : IsTrimmed core) (gap : List Char) :
    IsTrimmed (word ++ (gap ++ core)) := by
  obtain ⟨c, first, solid⟩ := isWord.isTrimmed.first
  obtain ⟨d, last, ends⟩ := trimmed.last
  refine ⟨⟨c, ?_, solid⟩, ⟨d, ?_, ends⟩⟩
  · rw [List.head?_append, first, Option.some_or]
  · rw [List.getLast?_append, List.getLast?_append, last, Option.some_or, Option.some_or]

theorem trim_of_allBlank {text : List Char} (blank : AllBlank text) : trim text = [] := by
  have skipped : trimStart text = [] := List.dropWhile_eq_nil_iff.mpr blank
  rw [trim, skipped]
  rfl

theorem Padded.trim_eq {text core : List Char} (padded : Padded text core) : trim text = core := by
  obtain ⟨lead, trail, before, trimmed, behind, rfl⟩ := padded
  obtain ⟨c, first, solid⟩ := trimmed.first
  obtain ⟨d, last, ends⟩ := trimmed.last
  obtain ⟨rest, rfl⟩ := List.head?_eq_some_iff.mp first
  obtain ⟨init, split⟩ := List.getLast?_eq_some_iff.mp last
  have start : trimStart (c :: rest ++ trail) = c :: rest ++ trail := trimStart_of_not_isBlank solid
  rw [trim, trimStart_append before, start, trimEnd_append_blanks behind, split, trimEnd_concat init ends]

theorem blank_or_padded (text : List Char) : AllBlank text ∨ ∃ core, Padded text core := by
  induction text with
  | nil => exact .inl .nil
  | cons c rest ih =>
    cases solid : isBlank c with
    | true =>
      rcases ih with blank | ⟨core, lead, trail, before, trimmed, behind, rfl⟩
      · exact .inl (blank.cons solid)
      · exact .inr ⟨core, c :: lead, trail, before.cons solid, trimmed, behind, rfl⟩
    | false =>
      have alone : IsWord [c] := ⟨by simp, by simpa using solid⟩
      rcases ih with blank | ⟨core, lead, trail, _, trimmed, behind, rfl⟩
      · exact .inr ⟨[c], [], rest, .nil, alone.isTrimmed, blank, rfl⟩
      · exact .inr ⟨_, [], trail, .nil, trimmed.append alone lead, behind, by simp⟩

theorem blank_or_firstWord (text : List Char) : AllBlank text ∨ ∃ word rest, FirstWord text word rest := by
  have before : AllBlank (text.takeWhile isBlank) := fun c member => List.mem_takeWhile_imp member
  have whole := List.takeWhile_append_dropWhile (p := isBlank) (l := text)
  have first := List.head?_dropWhile_not isBlank text
  generalize text.takeWhile isBlank = lead at before whole
  generalize text.dropWhile isBlank = shown at whole first
  cases shown with
  | nil => exact .inl (by rwa [← whole, List.append_nil])
  | cons c more =>
    have solid : isBlank c = false := by simpa using first
    have rest := List.head?_dropWhile_not (!isBlank ·) (c :: more)
    refine .inr ⟨(c :: more).takeWhile (!isBlank ·), (c :: more).dropWhile (!isBlank ·), lead, before, ⟨?_, ?_⟩, ?_, ?_⟩
    · simp [solid]
    · intro d member
      simpa using List.mem_takeWhile_imp member
    · intro d starts
      rw [starts] at rest
      simpa using rest
    · rw [List.takeWhile_append_dropWhile, whole]

theorem IsWord.splitWord_append {word rest : List Char} (isWord : IsWord word) (apart : Apart rest) :
    splitWord (word ++ rest) = (word, rest.drop 1) := by
  have inside : ∀ c ∈ word, (!isBlank c) = true := by simpa using isWord.solid
  rw [splitWord, List.takeWhile_append_of_pos inside, List.dropWhile_append_of_pos inside]
  cases rest with
  | nil => rw [List.takeWhile_nil, List.append_nil, List.dropWhile_nil]
  | cons c rest => simp [apart c rfl]

/-- Taking the first word off a trimmed text leaves, but for blanks around it, what stood behind the word. -/
theorem FirstWord.splitWord_trim {text word rest : List Char} (first : FirstWord text word rest) :
    ∃ behind, splitWord (trim text) = (word, behind) ∧ trim behind = trim rest := by
  obtain ⟨lead, before, isWord, apart, rfl⟩ := first
  rcases blank_or_padded rest with blank | ⟨core, gap, trail, between, trimmed, behind, rfl⟩
  · have kept : trim (lead ++ (word ++ rest)) = word := Padded.trim_eq ⟨lead, rest, before, isWord.isTrimmed, blank, rfl⟩
    have none : Apart [] := nofun
    have alone := isWord.splitWord_append none
    rw [List.append_nil] at alone
    exact ⟨[], by rw [kept, alone]; rfl, (trim_of_allBlank blank).symm⟩
  · have kept : trim (lead ++ (word ++ (gap ++ (core ++ trail)))) = word ++ (gap ++ core) :=
      Padded.trim_eq ⟨lead, trail, before, trimmed.append isWord gap, behind, by simp⟩
    obtain ⟨c, starts, solid⟩ := trimmed.first
    cases gap with
    | nil =>
      have blank := apart c (by rw [List.nil_append, List.head?_append, starts, Option.some_or])
      rw [solid] at blank
      cases blank
    | cons d gap =>
      have parted : Apart (d :: gap ++ core) := fun e first => apart e first
      have inner : Padded (gap ++ core) core := ⟨gap, [], between.tail, trimmed, .nil, by simp⟩
      have outer : Padded (d :: gap ++ (core ++ trail)) core := ⟨d :: gap, trail, between, trimmed, behind, rfl⟩
      refine ⟨gap ++ core, ?_, ?_⟩
      · rw [kept, isWord.splitWord_append parted]
        rfl
      · rw [inner.trim_eq, outer.trim_eq]

theorem splitWord_trim_of_allBlank {text : List Char} (blank : AllBlank text) : splitWord (trim text) = ([], []) := by
  rw [trim_of_allBlank blank]
  rfl

theorem wordsOf_cons_blank {c : Char} (blank : isBlank c = true) (rest : List Char) : wordsOf (c :: rest) = wordsOf rest := by
  simp [wordsOf, List.splitOnP_cons_eq_if_modifyHead, blank]

theorem wordsOf_of_allBlank {text : List Char} (blank : AllBlank text) : wordsOf text = [] := by
  induction text with
  | nil => rfl
  | cons c rest ih => rw [wordsOf_cons_blank (blank c List.mem_cons_self), ih blank.tail]

theorem FirstWord.wordsOf_eq {text word rest : List Char} (first : FirstWord text word rest) :
    wordsOf text = word :: wordsOf rest := by
  obtain ⟨lead, before, isWord, apart, rfl⟩ := first
  have kept (more : List (List Char)) : (word :: more).filter (!·.isEmpty) = word :: more.filter (!·.isEmpty) :=
    List.filter_cons_of_pos (by simpa using isWord.nonempty)
  induction lead with
  | nil =>
    rw [List.nil_append]
    cases rest with
    | nil =>
      rw [List.append_nil, wordsOf, List.splitOnP_eq_singleton isWord.solid, kept]
      rfl
    | cons c rest =>
      have stops : isBlank c = true := apart c rfl
      rw [wordsOf, List.splitOnP_append_cons_of_forall_mem isWord.solid c stops, kept, wordsOf_cons_blank stops, wordsOf]
  | cons c lead ih =>
    rw [List.cons_append, wordsOf_cons_blank (before c List.mem_cons_self), ih before.tail]

theorem wordsOf_eq_nil_iff {text : List Char} : wordsOf text = [] ↔ AllBlank text := by
  refine ⟨fun none => ?_, wordsOf_of_allBlank⟩
  rcases blank_or_firstWord text with blank | ⟨word, rest, first⟩
  · exact blank
  · rw [first.wordsOf_eq] at none
    cases none

end RStepper.Text
