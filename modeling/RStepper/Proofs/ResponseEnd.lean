import Mathlib.Data.List.Basic
import RStepper.Proofs.TextLines
import RStepper.Response.Marker

/-! When a response is complete: it has two lines or more, and the last one is a prompt. -/

namespace RStepper.Marker
open Text

/-- `Browse[`, one digit or more, and `]> `. -/
def IsPrompt (line : Line) : Prop :=
  ∃ digits, digits ≠ [] ∧ digits.all Char.isDigit = true ∧ line = promptStart.toList ++ digits ++ promptEnd.toList

theorem IsPrompt.breakFree {line : Line} (prompt : IsPrompt line) : BreakFree line := by
  obtain ⟨digits, _, decimal, rfl⟩ := prompt
  have plain (c : Char) (odd : c.isDigit = false) (start : c ∉ promptStart.toList) (finish : c ∉ promptEnd.toList) :
      c ∉ promptStart.toList ++ digits ++ promptEnd.toList := by
    intro inside
    rcases List.mem_append.mp inside with inside | inside
    · rcases List.mem_append.mp inside with inside | inside
      · exact start inside
      · exact absurd (List.all_eq_true.mp decimal c inside) (by simp [odd])
    · exact finish inside
  exact ⟨plain '\n' (by decide) (by decide) (by decide), plain '\r' (by decide) (by decide) (by decide)⟩

theorem IsPrompt.ne_continuation {line : Line} (prompt : IsPrompt line) : line ≠ continuationPrompt.toList := by
  obtain ⟨digits, _, _, rfl⟩ := prompt
  exact fun same => absurd (List.head_eq_of_cons_eq same) (by decide)

theorem endsInContinuation_iff {text : List Char} : endsInContinuation text = true ↔
    ∃ front, endsAtBreak front = true ∧ text = front ++ continuationPrompt.toList := by
  unfold endsInContinuation stripEnd
  simp only [Option.any_eq_true, List.isSuffixOf?_eq_some_iff_append_eq]
  constructor
  · rintro ⟨front, rfl, ends⟩
    exact ⟨front, ends, rfl⟩
  · rintro ⟨front, ends, rfl⟩
    exact ⟨front, rfl, ends⟩

theorem dropEnding_append {test : Char → Bool} {stem ending : List Char} (bare : stem.getLast?.any test = false)
    (passes : ending.all test = true) : ((stem ++ ending).reverse.dropWhile test).reverse = stem := by
  have skipped : (ending.reverse ++ stem.reverse).dropWhile test = stem.reverse.dropWhile test :=
    List.dropWhile_append_of_pos fun c inside => List.all_eq_true.mp passes c (List.mem_reverse.mp inside)
  rw [List.reverse_append, skipped]
  cases rest : stem.reverse with
  | nil => simpa using rest.symm
  | cons c front =>
    have last : stem.getLast? = some c := by rw [List.getLast?_eq_head?_reverse, rest]; rfl
    rw [last, Option.any_some] at bare
    rw [List.dropWhile_cons_of_neg (by simp [bare]), ← rest, List.reverse_reverse]

theorem dropEnding_split (test : Char → Bool) (text : List Char) :
    text = (text.reverse.dropWhile test).reverse ++ (text.reverse.takeWhile test).reverse := by
  rw [← List.reverse_append, List.takeWhile_append_dropWhile, List.reverse_reverse]

theorem endsInPrompt_iff {text : List Char} : endsInPrompt text = true ↔
    ∃ front prompt, endsAtBreak front = true ∧ IsPrompt prompt ∧ text = front ++ prompt := by
  unfold endsInPrompt stripEnd
  simp only [Option.any_eq_true, List.isSuffixOf?_eq_some_iff_append_eq, Bool.and_eq_true, bne_iff_ne]
  constructor
  · rintro ⟨numbered, rfl, longer, front, stem, ends⟩
    have whole : numbered = front ++ promptStart.toList ++ (numbered.reverse.takeWhile Char.isDigit).reverse := by
      rw [stem]
      exact dropEnding_split Char.isDigit numbered
    refine ⟨front, _, ends, ⟨(numbered.reverse.takeWhile Char.isDigit).reverse, ?_, ?_, rfl⟩, ?_⟩
    · intro none
      rw [none, List.append_nil] at whole
      exact longer (by rw [← stem, ← whole])
    · simp [List.all_takeWhile]
    · rw [← List.append_assoc, ← List.append_assoc, ← whole]
  · rintro ⟨front, _, ends, ⟨digits, some, decimal, rfl⟩, rfl⟩
    have stem : ((front ++ promptStart.toList ++ digits).reverse.dropWhile Char.isDigit).reverse =
        front ++ promptStart.toList := by
      refine dropEnding_append ?_ decimal
      rw [List.getLast?_append_of_ne_nil _ (by decide)]
      decide
    refine ⟨front ++ promptStart.toList ++ digits, by simp, ?_, front, stem.symm, ends⟩
    have wide := List.length_pos_of_ne_nil some
    simp only [stem, List.length_append]
    omega

/-- A text that goes on behind a break goes on with a line of its own. -/
theorem cut_behind_break {front last : List Char} (ends : endsAtBreak front = true) (free : BreakFree last) :
    ∃ earlier, earlier ≠ [] ∧ Cut (front ++ last) (earlier ++ [last]) := by
  fun_induction rows front with
  | case1 => cases ends
  | case2 rest ih =>
    cases rest with
    | nil => exact ⟨[[]], by simp, .crlf .nil (.last free)⟩
    | cons c rest =>
      obtain ⟨earlier, _, cut⟩ := ih (by simpa [endsAtBreak] using ends)
      exact ⟨[] :: earlier, by simp, .crlf .nil cut⟩
  | case3 c rest pair isBreak ih =>
    obtain ⟨earlier, cut⟩ : ∃ earlier, Cut (rest ++ last) (earlier ++ [last]) := by
      cases rest with
      | nil => exact ⟨[], .last free⟩
      | cons d rest =>
        obtain ⟨earlier, _, cut⟩ := ih (by simpa [endsAtBreak] using ends)
        exact ⟨earlier, cut⟩
    refine ⟨[] :: earlier, by simp, ?_⟩
    rcases isBreak with rfl | rfl
    · exact .lf .nil cut
    · refine .cr .nil ?_ cut
      cases rest with
      | nil => exact fun first => free.1 (List.mem_of_head? first)
      | cons d rest =>
        intro first
        obtain rfl : d = '\n' := by simpa using first
        exact pair rest rfl rfl
  | case4 c rest pair other empty => exact absurd empty (rows_ne_nil rest)
  | case5 c rest pair other row more seen ih =>
    cases rest with
    | nil =>
      simp only [endsAtBreak, List.getLast?_singleton, Option.any_some, Bool.or_eq_true, beq_iff_eq] at ends
      exact absurd ends other
    | cons d rest =>
      obtain ⟨earlier, some, cut⟩ := ih (by simpa [endsAtBreak] using ends)
      obtain ⟨line, earlier, rfl⟩ := List.exists_cons_of_ne_nil some
      exact ⟨(c :: line) :: earlier, by simp, cut.cons other⟩

theorem endsAtBreak_append {front : List Char} (ends : endsAtBreak front = true) (earlier : List Char) :
    endsAtBreak (earlier ++ front) = true := by
  cases front with
  | nil => cases ends
  | cons c rest => rwa [endsAtBreak, List.getLast?_append_of_ne_nil _ (by simp)]

/-- What comes before a text's last line ends at a break, unless the text is one line. -/
theorem front_of_cut {text : List Char} {lines earlier : List Line} {last : Line} (cut : Cut text lines)
    (parts : lines = earlier ++ [last]) :
    ∃ front, text = front ++ last ∧ (earlier = [] → front = []) ∧ (earlier ≠ [] → endsAtBreak front = true) := by
  -- The three sorts of break need the same step: the front grows by a line and a break.
  have step {line rest : List Char} {lines earlier : List Line} (brk : List Char) (broken : endsAtBreak brk = true)
      (ih : ∀ earlier, lines = earlier ++ [last] → ∃ front, rest = front ++ last ∧
        (earlier = [] → front = []) ∧ (earlier ≠ [] → endsAtBreak front = true))
      (some : lines ≠ []) (parts : line :: lines = earlier ++ [last]) :
      ∃ front, line ++ (brk ++ rest) = front ++ last ∧ (earlier = [] → front = []) ∧
        (earlier ≠ [] → endsAtBreak front = true) := by
    cases earlier with
    | nil => exact absurd (List.cons.inj parts).2 some
    | cons first more =>
      obtain ⟨rfl, rest⟩ := List.cons.inj parts
      obtain ⟨front, rfl, alone, ends⟩ := ih more rest
      refine ⟨line ++ (brk ++ front), by simp, nofun, fun _ => endsAtBreak_append ?_ line⟩
      by_cases single : more = []
      · simpa [alone single] using broken
      · exact endsAtBreak_append (ends single) brk
  induction cut generalizing earlier with
  | last free =>
    cases earlier with
    | nil =>
      obtain rfl := List.singleton_inj.mp parts
      exact ⟨[], rfl, fun _ => rfl, nofun⟩
    | cons first more => exact absurd (List.cons.inj parts).2.symm (by simp)
  | @lf line rest lines free more ih =>
    exact step ['\n'] rfl (fun _ => ih) (more.rows_eq ▸ rows_ne_nil rest) parts
  | @crlf line rest lines free more ih =>
    exact step ['\r', '\n'] rfl (fun _ => ih) (more.rows_eq ▸ rows_ne_nil rest) parts
  | @cr line rest lines free alone more ih =>
    exact step ['\r'] rfl (fun _ => ih) (more.rows_eq ▸ rows_ne_nil rest) parts

theorem continuationPrompt_breakFree : BreakFree continuationPrompt.toList := by
  constructor <;> decide

theorem isComplete_iff {text : List Char} : isComplete text = true ↔
    ∃ command body prompt, Cut text (command :: (body ++ [prompt])) ∧
      (prompt = continuationPrompt.toList ∨ IsPrompt prompt) := by
  have first {earlier : List Line} {last : Line} (some : earlier ≠ []) (cut : Cut text (earlier ++ [last])) :
      ∃ command body, Cut text (command :: (body ++ [last])) := by
    obtain ⟨command, body, rfl⟩ := List.exists_cons_of_ne_nil some
    exact ⟨command, body, cut⟩
  unfold isComplete
  rw [Bool.or_eq_true, endsInContinuation_iff, endsInPrompt_iff]
  constructor
  · rintro (⟨front, ends, rfl⟩ | ⟨front, prompt, ends, prompted, rfl⟩)
    · obtain ⟨earlier, some, cut⟩ := cut_behind_break ends continuationPrompt_breakFree
      obtain ⟨command, body, cut⟩ := first some cut
      exact ⟨command, body, _, cut, .inl rfl⟩
    · obtain ⟨earlier, some, cut⟩ := cut_behind_break ends prompted.breakFree
      obtain ⟨command, body, cut⟩ := first some cut
      exact ⟨command, body, prompt, cut, .inr prompted⟩
  · rintro ⟨command, body, prompt, cut, prompted⟩
    obtain ⟨front, rfl, _, ends⟩ := front_of_cut cut (List.cons_append ..).symm
    rcases prompted with rfl | prompted
    · exact .inl ⟨front, ends (by simp), rfl⟩
    · exact .inr ⟨front, prompt, ends (by simp), prompted, rfl⟩

end RStepper.Marker
