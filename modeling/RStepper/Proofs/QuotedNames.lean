import Mathlib.Data.List.Basic
import RStepper.Proofs.TextLines
import RStepper.Symbol

/-! Which binding a name's symbol denotes. The language reads a symbol bare or between backquotes; what is put between
backquotes has its backquotes escaped and its backslashes not, and a reserved word stays bare. So a name is denoted by its
symbol exactly if it has no backslash and is no reserved word. No two names have the same symbol. -/

namespace RStepper.Symbol
open Text

/-- The words that are no symbols when they stand bare. -/
def reservedWords : List String :=
  ["if", "else", "repeat", "while", "function", "for", "in", "next", "break", "TRUE", "FALSE", "NULL", "Inf", "NaN", "NA",
    "NA_integer_", "NA_real_", "NA_complex_", "NA_character_"]

/-- Three dots, or two and a number: what a caller passed on. -/
def isPassedOn : List Char → Bool
  | '.' :: '.' :: rest => rest = ['.'] || rest ≠ [] && rest.all Char.isDigit
  | _ => false

def isReserved (word : List Char) : Bool :=
  word ∈ reservedWords.map String.toList || isPassedOn word

def isWordChar (c : Char) : Bool :=
  c.isAlphanum || c == '.' || c == '_'

/-- A letter, or a dot that no digit follows, and then letters, digits, dots and underscores. -/
def isWord : List Char → Bool
  | [] => false
  | c :: rest => (c.isAlpha || c == '.' && !rest.head?.any Char.isDigit) && rest.all isWordChar

/-- The name that stands behind an opening backquote, if the first backquote that is not escaped ends the text. -/
def unbackquoted : List Char → Option (List Char)
  | [] => none
  | [c] => if c = backquote then some [] else none
  | c :: d :: rest =>
    if c = backquote then none
    else if c = '\\' then
      if d = '\\' ∨ d = backquote then (unbackquoted rest).map (d :: ·) else none
    else (unbackquoted (d :: rest)).map (c :: ·)

/-- The name of the binding that a text denotes, if the text is one symbol. -/
def denoted? : List Char → Option (List Char)
  | [] => none
  | c :: rest =>
    if c = backquote then (unbackquoted rest).filter (· ≠ [])
    else if isWord (c :: rest) && !isReserved (c :: rest) then some (c :: rest)
    else none

/-- A name as it has to stand between backquotes. -/
def spelled (name : List Char) : List Char :=
  name.flatMap fun c => if c = '\\' ∨ c = backquote then ['\\', c] else [c]

theorem spelled_cons (c : Char) (name : List Char) :
    spelled (c :: name) = (if c = '\\' ∨ c = backquote then ['\\', c] else [c]) ++ spelled name := rfl

theorem escapeBackquotes_cons (c : Char) (name : List Char) :
    escapeBackquotes (c :: name) = (if c = backquote then ['\\', backquote] else [c]) ++ escapeBackquotes name := rfl

theorem unbackquoted_cons {c : Char} (plain : ¬(c = '\\' ∨ c = backquote)) {rest : List Char} (more : rest ≠ []) :
    unbackquoted (c :: rest) = (unbackquoted rest).map (c :: ·) := by
  obtain ⟨d, rest, rfl⟩ := List.exists_cons_of_ne_nil more
  rw [unbackquoted, if_neg fun same => plain (.inr same), if_neg fun same => plain (.inl same)]

theorem unbackquoted_spelled (name : List Char) : unbackquoted (spelled name ++ [backquote]) = some name := by
  induction name with
  | nil => rfl
  | cons c name ih =>
    rw [spelled_cons]
    split
    next marked =>
      have apart : '\\' ≠ backquote := by decide
      rw [List.append_assoc, List.cons_append, List.cons_append, List.nil_append, unbackquoted, if_neg apart, if_pos rfl,
        if_pos marked, ih, Option.map_some]
    next plain =>
      rw [List.append_assoc, List.singleton_append, unbackquoted_cons plain (by simp), ih, Option.map_some]

theorem unbackquoted_eq_some_iff {text name : List Char} :
    unbackquoted text = some name ↔ text = spelled name ++ [backquote] := by
  refine ⟨fun read => ?_, fun same => same ▸ unbackquoted_spelled name⟩
  fun_induction unbackquoted text generalizing name with
  | case1 => cases read
  | case2 =>
    cases read
    rfl
  | case3 => cases read
  | case4 => cases read
  | case5 d rest marked _ ih =>
    obtain ⟨behind, inside, rfl⟩ := Option.map_eq_some_iff.mp read
    rw [spelled_cons, if_pos marked, ih inside]
    rfl
  | case6 => cases read
  | case7 c d rest apart other ih =>
    obtain ⟨behind, inside, rfl⟩ := Option.map_eq_some_iff.mp read
    rw [spelled_cons, if_neg (not_or.mpr ⟨other, apart⟩), ih inside]
    rfl

/-- The spelling that names are given is shorter by their backslashes. -/
theorem length_spelled (name : List Char) :
    (spelled name).length = (escapeBackquotes name).length + name.count '\\' := by
  induction name with
  | nil => rfl
  | cons c name ih =>
    rw [spelled_cons, escapeBackquotes_cons, List.length_append, List.length_append, ih]
    by_cases backslash : c = '\\'
    · have apart : c ≠ backquote := backslash ▸ by decide
      rw [if_pos (.inl backslash), if_neg apart, backslash, List.count_cons_self]
      simp only [List.length_cons, List.length_nil]
      omega
    · have same : (if c = '\\' ∨ c = backquote then ['\\', c] else [c]) =
          if c = backquote then ['\\', backquote] else [c] := by
        by_cases mark : c = backquote <;> simp [mark, backslash]
      rw [same, List.count_cons_of_ne backslash, Nat.add_assoc]

theorem escapeBackquotes_eq_spelled_iff {name : List Char} : escapeBackquotes name = spelled name ↔ '\\' ∉ name := by
  rw [← List.count_eq_zero]
  constructor
  · intro same
    have longer := length_spelled name
    rw [same] at longer
    omega
  · intro none
    unfold escapeBackquotes spelled
    refine List.flatMap_congr fun c inside => ?_
    have plain : c ≠ '\\' := fun same => List.count_eq_zero.mp none (same ▸ inside)
    by_cases mark : c = backquote <;> simp [plain, mark]

theorem isLetter_eq_isAlpha (c : Char) : isLetter c = c.isAlpha := by
  have upper : c.isUpper = ('A' ≤ c && c ≤ 'Z') := Bool.decide_and _ _
  have lower : c.isLower = ('a' ≤ c && c ≤ 'z') := rfl
  change _ = (c.isUpper || c.isLower)
  rw [isLetter, upper, lower, Bool.or_comm]

theorem isNameChar_eq_isWordChar : isNameChar = isWordChar := by
  funext c
  rw [isNameChar, isLetter_eq_isAlpha, isWordChar, Char.isAlphanum]

theorem isBare_eq_isWord (name : List Char) : isBare name = isWord name := by
  cases name with
  | nil => rfl
  | cons c rest =>
    by_cases dot : c = '.'
    · subst dot
      simp [isBare, isWord, isNameChar_eq_isWordChar, isWordChar]
    · have first : isBare (c :: rest) = (isLetter c && (c :: rest).all isNameChar) := by
        unfold isBare
        split <;> simp_all
      rw [first, isLetter_eq_isAlpha, isNameChar_eq_isWordChar, List.all_cons]
      cases letter : c.isAlpha <;> simp [isWord, isWordChar, Char.isAlphanum, letter, dot]

theorem backslash_not_mem_of_isWord {name : List Char} (word : isWord name = true) : '\\' ∉ name := by
  cases name with
  | nil => exact List.not_mem_nil
  | cons c rest =>
    simp only [isWord, Bool.and_eq_true, List.all_eq_true] at word
    rintro (_ | ⟨_, inside⟩)
    · exact absurd word.1 (by simp +decide)
    · exact absurd (word.2 _ inside) (by decide)

/-- A reserved word is a word, so nothing is done about it. -/
theorem isWord_of_isReserved {word : List Char} (reserved : isReserved word = true) : isWord word = true := by
  rcases Bool.or_eq_true_iff.mp reserved with listed | passed
  · have words : ∀ word ∈ reservedWords.map String.toList, isWord word = true := by decide
    exact words word (by simpa using listed)
  · unfold isPassedOn at passed
    split at passed
    next rest =>
      simp only [Bool.or_eq_true, decide_eq_true_eq, Bool.and_eq_true, List.all_eq_true] at passed
      rcases passed with rfl | ⟨_, digits⟩
      · rfl
      · have more : rest.all isWordChar = true :=
          List.all_eq_true.mpr fun d inside => by simp [isWordChar, Char.isAlphanum, digits d inside]
        simp [isWord, more, isWordChar]
    · cases passed

theorem head?_escapeBackquotes (name : List Char) : (escapeBackquotes name).head? ≠ some backquote := by
  cases name with
  | nil => nofun
  | cons c name =>
    rw [escapeBackquotes_cons]
    split
    · exact fun same => absurd (Option.some.inj same) (by decide)
    next other => exact fun same => other (Option.some.inj same)

/-- A backslash in front of a backquote was put there, and any other stood in the name. -/
theorem escapeBackquotes_injective : Function.Injective escapeBackquotes := by
  -- The one doubtful case: an escaped backquote in the one name, a backslash of its own in the other.
  have apart {c : Char} {name other : List Char} (plain : c ≠ backquote) :
      '\\' :: backquote :: escapeBackquotes name ≠ c :: escapeBackquotes other := fun same =>
    head?_escapeBackquotes other (by rw [← (List.cons.inj same).2, List.head?_cons])
  intro name other same
  induction name generalizing other with
  | nil =>
    cases other with
    | nil => rfl
    | cons d other => exact absurd same.symm (by rw [escapeBackquotes_cons]; split <;> nofun)
  | cons c name ih =>
    cases other with
    | nil => exact absurd same (by rw [escapeBackquotes_cons]; split <;> nofun)
    | cons d other =>
      rw [escapeBackquotes_cons, escapeBackquotes_cons] at same
      by_cases first : c = backquote <;> by_cases second : d = backquote <;>
        simp only [first, second, if_true, if_false, List.cons_append, List.nil_append] at same
      · rw [first, second, ih (List.cons.inj (List.cons.inj same).2).2]
      · exact absurd same (apart second)
      · exact absurd same.symm (apart first)
      · rw [(List.cons.inj same).1, ih (List.cons.inj same).2]

theorem toList_quoted (name : String) : (quoted name).toList =
    if isWord name.toList then name.toList else backquote :: (escapeBackquotes name.toList ++ [backquote]) := by
  rw [quoted, isBare_eq_isWord]
  split
  · rfl
  · exact String.toList_ofList

theorem ne_backquote_of_isWord {c : Char} {rest : List Char} (word : isWord (c :: rest) = true) : c ≠ backquote := by
  rintro rfl
  exact absurd word (by simp +decide [isWord])

theorem quoted_injective : Function.Injective quoted := by
  have apart {name : List Char} (word : isWord name = true) (inside : List Char) : name ≠ backquote :: inside := by
    rintro rfl
    exact ne_backquote_of_isWord word rfl
  intro first second same
  have texts := congrArg String.toList same
  rw [toList_quoted, toList_quoted] at texts
  apply String.toList_inj.mp
  split at texts
  next bare =>
    split at texts
    · exact texts
    · exact absurd texts (apart bare _)
  next =>
    split at texts
    next bare => exact absurd texts.symm (apart bare _)
    next => exact escapeBackquotes_injective (List.append_cancel_right (List.cons.inj texts).2)

/-- The symbol of a name denotes it unless the name is a reserved word, which stays bare, or has a backslash, which is read
as the beginning of an escape. -/
theorem quoted_denotes_iff (name : String) : denoted? (quoted name).toList = some name.toList ↔
    name ≠ "" ∧ '\\' ∉ name.toList ∧ isReserved name.toList = false := by
  have empty : name = "" ↔ name.toList = [] := String.toList_eq_nil_iff.symm
  rw [toList_quoted, Ne, empty]
  generalize name.toList = name
  cases word : isWord name with
  | true =>
    have plain := backslash_not_mem_of_isWord word
    cases name with
    | nil => cases word
    | cons c rest =>
      rw [if_pos rfl, denoted?, if_neg (ne_backquote_of_isWord word), word, Bool.true_and]
      cases isReserved (c :: rest) <;> simp [plain]
  | false =>
    have free : isReserved name = false := by
      rw [← Bool.not_eq_true]
      exact fun reserved => absurd (isWord_of_isReserved reserved) (by simp [word])
    rw [if_neg (by simp), denoted?, if_pos rfl, Option.filter_eq_some_iff, unbackquoted_eq_some_iff, List.append_left_inj,
      escapeBackquotes_eq_spelled_iff]
    simp [free, and_comm]

/-- A name that is a reserved word is read as that word. A backslash in a name is read as the beginning of an escape: it is
lost, or takes the closing backquote with it. -/
theorem quoted_misread :
    (BreakFree "if".toList ∧ quoted "if" = "if" ∧ denoted? (quoted "if").toList = none) ∧
    (BreakFree "a\\".toList ∧ quoted "a\\" = "`a\\`" ∧ denoted? (quoted "a\\").toList = none) ∧
    (BreakFree "a\\\\b".toList ∧ quoted "a\\\\b" = "`a\\\\b`" ∧
      denoted? (quoted "a\\\\b").toList = some "a\\b".toList) := by
  decide +kernel

end RStepper.Symbol
