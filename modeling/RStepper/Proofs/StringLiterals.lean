import Mathlib.Logic.Function.Defs
import RStepper.Inspect
import RStepper.Proofs.TextLines

/-! What goes into a command between quotes is read back as it was: an expression that is to be evaluated, and the name
that a hook prints. Nothing in it ends the literal, and nothing in an expression ends the line. -/

namespace RStepper
open Text

namespace Literal

/-- The character that an escape stands for, by what follows the backslash. -/
def escaped? (c : Char) : Option Char :=
  if c = '\\' ∨ c = '"' then some c
  else if c = 'n' then some '\n'
  else if c = 'r' then some '\r'
  else none

/-- The text that a string literal holds, read from left to right. A bare quote is not inside a literal, and an escape
does not go beyond its end. -/
def read? : List Char → Option (List Char)
  | [] => some []
  | '\\' :: c :: rest => (escaped? c).bind fun d => (read? rest).map (d :: ·)
  | c :: rest => if c = '\\' ∨ c = '"' then none else (read? rest).map (c :: ·)

/-- The number of backslashes at the end of a text. -/
def trailingBackslashes (text : List Char) : Nat :=
  (text.reverse.takeWhile (· = '\\')).length

/-- No quote in the text ends a literal: an odd run of backslashes stands before each. -/
def Guarded (literal : List Char) : Prop :=
  ∀ before after, literal = before ++ '"' :: after → trailingBackslashes before % 2 = 1

theorem read?_escape {c d : Char} (stands : escaped? c = some d) (rest : List Char) :
    read? ('\\' :: c :: rest) = (read? rest).map (d :: ·) := by
  rw [read?, stands, Option.bind_some]

theorem read?_cons {c : Char} (plain : ¬(c = '\\' ∨ c = '"')) (rest : List Char) :
    read? (c :: rest) = (read? rest).map (c :: ·) := by
  rw [read?, if_neg plain]
  rintro _ _ rfl _
  exact plain (.inl rfl)

theorem trailingBackslashes_cons {c : Char} (other : c ≠ '\\') (rest : List Char) :
    trailingBackslashes (c :: rest) = trailingBackslashes rest := by
  rw [trailingBackslashes, List.reverse_cons, List.takeWhile_append]
  split <;> simp_all [trailingBackslashes]

/-- An escape leaves the run at the end as it is, or makes it longer by two. -/
theorem trailingBackslashes_escape (c : Char) (rest : List Char) :
    trailingBackslashes ('\\' :: c :: rest) % 2 = trailingBackslashes rest % 2 := by
  rw [trailingBackslashes, List.reverse_cons, List.reverse_cons, List.append_assoc, List.takeWhile_append]
  split
  next whole =>
    rw [List.length_append, ← whole]
    by_cases run : c = '\\' <;> simp [run, trailingBackslashes]
  next => rfl

theorem guarded_of_read {literal text : List Char} (read : read? literal = some text) : Guarded literal := by
  rintro before after rfl
  -- On the reading of what stands before the quote; it can only end in the first half of an escape.
  induction before using read?.induct generalizing text with
  | case1 => simp [read?] at read
  | case2 c rest ih =>
    rw [List.cons_append, List.cons_append, read?] at read
    obtain ⟨d, _, read⟩ := Option.bind_eq_some_iff.mp read
    obtain ⟨behind, read, _⟩ := Option.map_eq_some_iff.mp read
    rw [trailingBackslashes_escape]
    exact ih read
  | case3 c rest single marked =>
    rcases marked with rfl | rfl
    · cases rest with
      | nil => rfl
      | cons d more => exact absurd rfl (single d more rfl)
    · simp [read?] at read
  | case4 c rest _ plain ih =>
    rw [List.cons_append, read?_cons plain] at read
    obtain ⟨behind, read, _⟩ := Option.map_eq_some_iff.mp read
    rw [trailingBackslashes_cons fun mark => plain (.inl mark)]
    exact ih read

/-- Each character is written so that it is read back, whatever comes behind it. -/
def Spells (encode : Char → List Char) : Prop :=
  ∀ c rest, read? (encode c ++ rest) = (read? rest).map (c :: ·)

theorem Spells.read {encode : Char → List Char} (spells : Spells encode) (text : List Char) :
    read? (text.flatMap encode) = some text := by
  induction text with
  | nil => rfl
  | cons c rest ih => rw [List.flatMap_cons, spells, ih, Option.map_some]

/-- One pass over a text, in which another text takes the place of a character. -/
def substitute (mark : Char) (other : List Char) (text : List Char) : List Char :=
  text.flatMap fun c => if c = mark then other else [c]

/-- Backslashes and quotes behind a backslash each. The backslashes come first: in a later pass they would be doubled. -/
def guardMarks (text : List Char) : List Char :=
  substitute '"' ['\\', '"'] (substitute '\\' ['\\', '\\'] text)

/-- The same, and then the two breaks as escapes. -/
def guardLines (text : List Char) : List Char :=
  substitute '\r' ['\\', 'r'] (substitute '\n' ['\\', 'n'] (guardMarks text))

end Literal

namespace Instrument
open Literal

theorem escapeLiteral_eq_passes (text : List Char) : escapeLiteral text = guardMarks text := by
  simp only [escapeLiteral, guardMarks, substitute, List.flatMap_assoc]
  congr 1
  funext c
  by_cases backslash : c = '\\'
  · simp [backslash]
  · by_cases quote : c = '"' <;> simp [backslash, quote]

theorem read?_escapeLiteral (text : List Char) : read? (escapeLiteral text) = some text := by
  refine Spells.read (fun c rest => ?_) text
  split
  next marked => exact read?_escape (if_pos marked) rest
  next plain => exact read?_cons plain rest

end Instrument

namespace Inspect
open Literal

theorem escapeChar_eq_passes (text : List Char) : text.flatMap escapeChar = guardLines text := by
  simp only [guardLines, guardMarks, substitute, List.flatMap_assoc]
  congr 1
  funext c
  unfold escapeChar
  by_cases backslash : c = '\\'
  · simp [backslash]
  · by_cases quote : c = '"'
    · simp [quote]
    · by_cases lf : c = '\n'
      · simp [lf]
      · by_cases cr : c = '\r' <;> simp [backslash, quote, lf, cr]

theorem spells_escapeChar : Spells escapeChar := by
  intro c rest
  unfold escapeChar
  split
  next marked => exact read?_escape (if_pos marked) rest
  next plain =>
    split
    next lf => exact read?_escape (lf ▸ rfl) rest
    next =>
      split
      next cr => exact read?_escape (cr ▸ rfl) rest
      next => exact read?_cons plain rest

theorem breakFree_escaped (text : List Char) : BreakFree (text.flatMap escapeChar) := by
  apply BreakFree.flatMap
  intro c _
  unfold escapeChar
  split
  next mark => rcases mark with rfl | rfl <;> decide
  · split
    · decide
    · split
      · decide
      next lf cr => exact BreakFree.cons (by simp [lf, cr]) .nil

theorem evaluationCommand_injective : Function.Injective evaluationCommand := by
  intro first second same
  unfold evaluationCommand at same
  have literals : first.toList.flatMap escapeChar = second.toList.flatMap escapeChar := by
    simpa [← String.toList_inj] using same
  have read := spells_escapeChar.read first.toList
  rw [literals, spells_escapeChar.read] at read
  exact String.toList_inj.mp (Option.some.inj read).symm

end Inspect

namespace Literal

/-- An expression is evaluated by a command that holds it as one string literal: four passes over the text, a literal on
one line that no quote ends early, and read back it is the expression. So no two expressions have the same command. Both
hooks of a function print its name out of such a literal, which two passes make. -/
theorem literals_read_back :
    (∀ expression : String, ∃ literal,
      Inspect.evaluationCommand expression = "eval(parse(text = \"" ++ String.ofList literal ++ "\"))" ∧
        literal = guardLines expression.toList ∧ BreakFree literal ∧ Guarded literal ∧
        read? literal = some expression.toList) ∧
    Function.Injective Inspect.evaluationCommand ∧
    ∀ name : String, ∃ literal,
      (Instrument.commands name).take 2 = [Instrument.Hook.enter, .exit].map (fun hook =>
        (Symbol.quoted (Instrument.hookName name hook) ++ " <- function() \x7b print(\"" ++ String.ofList literal ++
          "\") \x7d", Kind.quiet)) ∧
        literal = guardMarks name.toList ∧ Guarded literal ∧ read? literal = some name.toList := by
  refine ⟨fun expression => ?_, Inspect.evaluationCommand_injective, fun name => ?_⟩
  · have read := Inspect.spells_escapeChar.read expression.toList
    exact ⟨_, rfl, Inspect.escapeChar_eq_passes _, Inspect.breakFree_escaped _, guarded_of_read read, read⟩
  · have read := Instrument.read?_escapeLiteral name.toList
    exact ⟨_, rfl, Instrument.escapeLiteral_eq_passes _, guarded_of_read read, read⟩

end Literal
end RStepper
