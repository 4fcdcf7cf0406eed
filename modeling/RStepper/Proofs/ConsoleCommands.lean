import RStepper.Console.Command
import RStepper.Proofs.WrittenNumbers

/-! The command language of the console. A line is understood exactly if it is spelled as a command, whatever
blanks stand around its parts, and an expression or a condition comes out as it was typed. A line that is not
understood has an unknown first word, or lacks the line number or the expression that its first word calls for. -/

namespace RStepper.Console
open Text

/-- The words for what a user can ask for. -/
def Verb.spellings : Verb → List String
  | .run .resume => ["c", "continue"]
  | .run .next => ["n", "next", "stepOver"]
  | .run .into => ["s", "stepIn", "stepInto"]
  | .run .out => ["o", "out", "stepOut"]
  | .runTo => ["r", "run"]
  | .setBreakpoint => ["b", "break"]
  | .removeBreakpoint => ["d", "delete"]
  | .print => ["p", "print"]
  | .variables => ["v", "vars"]
  | .frames => ["w", "where"]
  | .quit => ["q", "quit"]

/-- The first word of a line means the verb, and the argument is what follows it. -/
def Begins (text : List Char) (verb : Verb) (argument : List Char) : Prop :=
  ∃ word ∈ verb.spellings, FirstWord text word.toList argument

/-- A verb, the text behind it and what the two ask for. Only a condition and an expression are taken to the end of
the line; most verbs take no argument, and what stands behind a line number matters to `setBreakpoint` alone. -/
inductive Asks : Verb → List Char → Command → Prop where
  | run {mode argument} : Asks (.run mode) argument (.run mode)
  | variables {argument} : Asks .variables argument .variables
  | frames {argument} : Asks .frames argument .frames
  | quit {argument} : Asks .quit argument .quit
  | runTo {argument number line rest} (first : FirstWord argument number rest) (written : LineNumber number line) :
      Asks .runTo argument (.runTo line)
  | removeBreakpoint {argument number line rest} (first : FirstWord argument number rest)
      (written : LineNumber number line) : Asks .removeBreakpoint argument (.removeBreakpoint line)
  | setBreakpoint {argument number line rest} (first : FirstWord argument number rest)
      (written : LineNumber number line) (alone : AllBlank rest) : Asks .setBreakpoint argument (.setBreakpoint line none)
  | setConditional {argument number line rest condition} (first : FirstWord argument number rest)
      (written : LineNumber number line) (padded : Padded rest condition) :
      Asks .setBreakpoint argument (.setBreakpoint line (some (String.ofList condition)))
  | print {argument expression} (padded : Padded argument expression) :
      Asks .print argument (.print (String.ofList expression))

inductive Spells : List Char → Command → Prop where
  | enter {text} (blank : AllBlank text) : Spells text (.run .into)
  | words {text verb argument command} (begins : Begins text verb argument) (asks : Asks verb argument command) :
      Spells text command

/-- The words behind a verb are not what it needs: a line number or an expression. -/
def Lacks : Verb → List (List Char) → Prop
  | .runTo, arguments | .setBreakpoint, arguments | .removeBreakpoint, arguments =>
    ¬ ∃ number line, arguments.head? = some number ∧ LineNumber number line
  | .print, arguments => arguments = []
  | .run _, _ | .variables, _ | .frames, _ | .quit, _ => False

/-- The words of a line that spells no command. -/
def Misspelled : List (List Char) → Prop
  | [] => False
  | word :: arguments => (∀ verb : Verb, String.ofList word ∉ verb.spellings) ∨
      ∃ verb : Verb, String.ofList word ∈ verb.spellings ∧ Lacks verb arguments

theorem verb?_of_spellings {verb : Verb} {word : String} (known : word ∈ verb.spellings) :
    verb? word.toList = some verb := by
  revert word
  cases verb with
  | run mode => cases mode <;> decide +kernel
  | _ => decide +kernel

theorem verb?_eq_some_iff {word : List Char} {verb : Verb} (isWord : IsWord word) :
    verb? word = some verb ↔ String.ofList word ∈ verb.spellings := by
  refine ⟨fun found => ?_, fun known => String.toList_ofList (l := word) ▸ verb?_of_spellings known⟩
  obtain ⟨⟨spelling, meaning⟩, entry, rfl⟩ := Option.map_eq_some_iff.mp found
  have table : ∀ entry ∈ words, entry.1 = "" ∨ entry.1 ∈ entry.2.spellings := by decide +kernel
  have same : spelling.toList = word := by simpa using List.find?_some entry
  rw [← same, String.ofList_toList]
  rcases table _ (List.mem_of_find?_eq_some entry) with none | known
  · exact absurd (same.symm.trans (congrArg String.toList none)) isWord.nonempty
  · exact known

theorem parse?_of_allBlank {line : String} (blank : AllBlank line.toList) : Command.parse? line = some (.run .into) := by
  rw [Command.parse?, splitWord_trim_of_allBlank blank]
  decide +kernel

/-- What a line asks for is decided by its first word and by what follows it, without the blanks around it. -/
theorem parse?_of_firstWord {line : String} {word rest : List Char} (first : FirstWord line.toList word rest) :
    Command.parse? line = (verb? word).bind (·.command? (trim rest)) := by
  obtain ⟨behind, split, trimmed⟩ := first.splitWord_trim
  rw [Command.parse?, split]
  dsimp only
  rw [trimmed]

theorem parse?_of_begins {line : String} {verb : Verb} {argument : List Char} (begins : Begins line.toList verb argument) :
    Command.parse? line = verb.command? (trim argument) := by
  obtain ⟨word, known, first⟩ := begins
  rw [parse?_of_firstWord first, verb?_of_spellings known, Option.bind_some]

theorem nonEmpty?_of_allBlank {text : List Char} (blank : AllBlank text) : nonEmpty? (trim text) = none := by
  rw [trim_of_allBlank blank]
  rfl

theorem nonEmpty?_of_padded {text core : List Char} (padded : Padded text core) :
    nonEmpty? (trim text) = some (String.ofList core) := by
  obtain ⟨_, _, _, trimmed, _⟩ := id padded
  rw [padded.trim_eq, nonEmpty?, if_neg (by simpa using trimmed.ne_nil)]

theorem nonEmpty?_eq_none_iff {text : List Char} : nonEmpty? (trim text) = none ↔ AllBlank text := by
  refine ⟨fun none => ?_, nonEmpty?_of_allBlank⟩
  rcases blank_or_padded text with blank | ⟨core, padded⟩
  · exact blank
  · rw [nonEmpty?_of_padded padded] at none
    cases none

theorem firstWord_of_readLine? {argument : List Char} {line : Int}
    (read : readLine? (splitWord (trim argument)).1 = some line) :
    ∃ number rest, FirstWord argument number rest ∧ LineNumber number line ∧
      trim (splitWord (trim argument)).2 = trim rest := by
  rcases blank_or_firstWord argument with blank | ⟨number, rest, first⟩
  · rw [splitWord_trim_of_allBlank blank] at read
    cases read
  · obtain ⟨behind, split, trimmed⟩ := first.splitWord_trim
    rw [split] at read ⊢
    exact ⟨number, rest, first, readLine?_eq_some_iff.mp read, trimmed⟩

theorem readLine?_splitWord_trim (argument : List Char) :
    readLine? (splitWord (trim argument)).1 = (wordsOf argument).head?.bind readLine? := by
  rcases blank_or_firstWord argument with blank | ⟨number, rest, first⟩
  · rw [splitWord_trim_of_allBlank blank, wordsOf_of_allBlank blank]
    rfl
  · obtain ⟨behind, split, _⟩ := first.splitWord_trim
    rw [split, first.wordsOf_eq, List.head?_cons, Option.bind_some]

theorem readLine?_eq_none_iff {argument : List Char} : readLine? (splitWord (trim argument)).1 = none ↔
    ¬ ∃ number line, (wordsOf argument).head? = some number ∧ LineNumber number line := by
  rw [readLine?_splitWord_trim, Option.eq_none_iff_forall_ne_some, ← not_exists]
  simp only [Option.bind_eq_some_iff, readLine?_eq_some_iff]
  simp only [exists_and_left, exists_comm]

theorem asks_of_command? {verb : Verb} {argument : List Char} {command : Command}
    (asked : verb.command? (trim argument) = some command) : Asks verb argument command := by
  cases verb with
  | run mode => cases asked; exact .run
  | «variables» => cases asked; exact .variables
  | frames => cases asked; exact .frames
  | quit => cases asked; exact .quit
  | runTo =>
    obtain ⟨line, read, rfl⟩ := Option.map_eq_some_iff.mp asked
    obtain ⟨number, rest, first, written, _⟩ := firstWord_of_readLine? read
    exact .runTo first written
  | removeBreakpoint =>
    obtain ⟨line, read, rfl⟩ := Option.map_eq_some_iff.mp asked
    obtain ⟨number, rest, first, written, _⟩ := firstWord_of_readLine? read
    exact .removeBreakpoint first written
  | setBreakpoint =>
    obtain ⟨line, read, rfl⟩ := Option.map_eq_some_iff.mp asked
    obtain ⟨number, rest, first, written, behind⟩ := firstWord_of_readLine? read
    show Asks _ _ (.setBreakpoint line (nonEmpty? (trim (splitWord (trim argument)).2)))
    rw [behind]
    rcases blank_or_padded rest with blank | ⟨condition, padded⟩
    · rw [nonEmpty?_of_allBlank blank]
      exact .setBreakpoint first written blank
    · rw [nonEmpty?_of_padded padded]
      exact .setConditional first written padded
  | print =>
    obtain ⟨expression, shown, rfl⟩ := Option.map_eq_some_iff.mp asked
    rcases blank_or_padded argument with blank | ⟨core, padded⟩
    · rw [nonEmpty?_of_allBlank blank] at shown
      cases shown
    · rw [nonEmpty?_of_padded padded, Option.some_inj] at shown
      exact shown ▸ .print padded

theorem Asks.command?_eq {verb : Verb} {argument : List Char} {command : Command} (asks : Asks verb argument command) :
    verb.command? (trim argument) = some command := by
  cases asks with
  | run | «variables» | frames | quit => rfl
  | runTo first written | removeBreakpoint first written =>
    obtain ⟨behind, split, _⟩ := first.splitWord_trim
    rw [Verb.command?, split]
    dsimp only
    rw [readLine?_eq_some_iff.mpr written, Option.map_some]
  | setBreakpoint first written alone =>
    obtain ⟨behind, split, trimmed⟩ := first.splitWord_trim
    rw [Verb.command?, split]
    dsimp only
    rw [readLine?_eq_some_iff.mpr written, Option.map_some, trimmed, nonEmpty?_of_allBlank alone]
  | setConditional first written padded =>
    obtain ⟨behind, split, trimmed⟩ := first.splitWord_trim
    rw [Verb.command?, split]
    dsimp only
    rw [readLine?_eq_some_iff.mpr written, Option.map_some, trimmed, nonEmpty?_of_padded padded]
  | print padded =>
    rw [Verb.command?, nonEmpty?_of_padded padded]
    rfl

theorem command?_eq_none_iff {verb : Verb} {argument : List Char} :
    verb.command? (trim argument) = none ↔ Lacks verb (wordsOf argument) := by
  cases verb with
  | run | «variables» | frames | quit => exact ⟨nofun, nofun⟩
  | runTo | setBreakpoint | removeBreakpoint => exact Option.map_eq_none_iff.trans readLine?_eq_none_iff
  | print => exact Option.map_eq_none_iff.trans (nonEmpty?_eq_none_iff.trans wordsOf_eq_nil_iff.symm)

theorem parse?_eq_some_iff {line : String} {command : Command} :
    Command.parse? line = some command ↔ Spells line.toList command := by
  constructor
  · intro read
    rcases blank_or_firstWord line.toList with blank | ⟨word, rest, first⟩
    · rw [parse?_of_allBlank blank, Option.some_inj] at read
      exact read ▸ .enter blank
    · rw [parse?_of_firstWord first] at read
      obtain ⟨verb, known, asked⟩ := Option.bind_eq_some_iff.mp read
      obtain ⟨_, _, isWord, _⟩ := id first
      refine .words ⟨_, (verb?_eq_some_iff isWord).mp known, ?_⟩ (asks_of_command? asked)
      rwa [String.toList_ofList]
  · intro spells
    cases spells with
    | enter blank => exact parse?_of_allBlank blank
    | words begins asks => rw [parse?_of_begins begins, asks.command?_eq]

theorem parse?_eq_none_iff {line : String} : Command.parse? line = none ↔ Misspelled (wordsOf line.toList) := by
  rcases blank_or_firstWord line.toList with blank | ⟨word, rest, first⟩
  · rw [parse?_of_allBlank blank, wordsOf_of_allBlank blank]
    exact ⟨nofun, False.elim⟩
  · obtain ⟨_, _, isWord, _⟩ := id first
    rw [parse?_of_firstWord first, first.wordsOf_eq, Misspelled, Option.bind_eq_none_iff]
    simp only [← verb?_eq_some_iff isWord]
    cases verb? word with
    | none => simp
    | some verb => simp [command?_eq_none_iff]

/-- A line is read as the command that it spells: the blanks around its words do not matter, and a condition and an
expression are kept as typed. It is refused exactly if its first word is unknown or lacks what it needs. Every number of
32 bits, as it is printed, is a word and a line number. -/
theorem commands_read (line : String) :
    (∀ command, Command.parse? line = some command ↔ Spells line.toList command) ∧
      (Command.parse? line = none ↔ Misspelled (wordsOf line.toList)) ∧
      ∀ number : Int32, IsWord (toString number.toInt).toList ∧ LineNumber (toString number.toInt).toList number.toInt := by
  refine ⟨fun _ => parse?_eq_some_iff, parse?_eq_none_iff, fun number => ?_⟩
  have written := lineNumber_toString number
  exact ⟨written.1.isWord, written⟩

end RStepper.Console
