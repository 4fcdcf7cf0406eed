import Mathlib.Data.List.Infix
import RStepper.Interpreter.Piped
import RStepper.Proofs.ResponseEnd

/-! Where a response ends that comes through a pipe. It ends with the first read behind which everything read so far
ends in a prompt. How the output is cut into reads makes no difference exactly if the output ends in a prompt nowhere
but at its end: a row of the output that looks like a prompt ends the response if a read happens to end there. -/

namespace RStepper
namespace Text.Utf8

theorem ne_between_of_advance {state next : State} {byte : Nat} (unfinished : advance state byte = some (none, next)) :
    next ≠ .between := by
  rintro rfl
  unfold advance lead at unfinished
  cases state <;> grind

/-- A byte that completes no character is the beginning of one. -/
theorem ne_between_of_advanceLossy {state : State} {byte : Nat} (silent : (advanceLossy state byte).1 = []) :
    (advanceLossy state byte).2 ≠ .between := by
  unfold advanceLossy at silent ⊢
  split
  next done next taken =>
    rw [taken] at silent
    obtain rfl := Option.toList_eq_nil_iff.mp silent
    exact ne_between_of_advance taken
  next refused =>
    rw [refused] at silent
    cases state with
    | between => cases silent
    | inside => dsimp only at silent; split at silent <;> cases silent

theorem decodeLossyFrom_ne_nil {state : State} {bytes : List UInt8} (some : state ≠ .between ∨ bytes ≠ []) :
    decodeLossyFrom state bytes ≠ [] := by
  induction bytes generalizing state with
  | nil =>
    have inside : state ≠ .between := some.resolve_right (· rfl)
    simp [decodeLossyFrom, inside]
  | cons byte rest ih =>
    rw [decodeLossyFrom, ne_eq, List.append_eq_nil_iff, not_and]
    exact fun silent => ih (.inl (ne_between_of_advanceLossy silent))

/-- The decoder carries nothing over a cut but its state. -/
theorem decodeLossyFrom_append (state : State) (front : List UInt8) : ∃ done next,
    ∀ back, decodeLossyFrom state (front ++ back) = done ++ decodeLossyFrom next back := by
  induction front generalizing state with
  | nil => exact ⟨[], state, fun _ => rfl⟩
  | cons byte rest ih =>
    obtain ⟨done, next, split⟩ := ih (advanceLossy state byte.toNat).2
    refine ⟨(advanceLossy state byte.toNat).1 ++ done, next, fun back => ?_⟩
    show (advanceLossy state byte.toNat).1 ++ decodeLossyFrom (advanceLossy state byte.toNat).2 (rest ++ back) = _
    rw [split, List.append_assoc]

theorem decodeLossy_append {front : List UInt8} (whole : (decodeLossy front).getLast? ≠ some replacement)
    (back : List UInt8) : decodeLossy (front ++ back) = decodeLossy front ++ decodeLossy back := by
  obtain ⟨done, next, split⟩ := decodeLossyFrom_append .between front
  have ends : decodeLossy front = done ++ decodeLossyFrom next [] := by rw [← split, List.append_nil, decodeLossy]
  cases next with
  | between =>
    rw [decodeLossyFrom, if_pos rfl, List.append_nil] at ends
    rw [decodeLossy, split, ends, decodeLossy]
  | inside =>
    rw [decodeLossyFrom, if_neg nofun] at ends
    exact absurd (by rw [ends, List.getLast?_concat]) whole

end Text.Utf8

namespace Piped
open Text Marker

/-- Output whose last row is a prompt. -/
def Prompted (output : List UInt8) : Prop :=
  ∃ front prompt, Utf8.decodeLossy output = front ++ prompt ∧ (front = [] ∨ endsAtBreak front = true) ∧
    (prompt = continuationPrompt.toList ∨ IsPrompt prompt)

/-- Behind some of the output, but not all, what there is ends in a prompt. -/
def PromptedEarly (output : List UInt8) : Prop :=
  ∃ length < output.length, Prompted (output.take length)

/-- A way for output to come in reads. -/
structure ReadAs (output : List UInt8) (reads : List (List UInt8)) : Prop where
  all : reads.flatten = output
  nonempty : ∀ read ∈ reads, read ≠ []

theorem ReadAs.singleton {output : List UInt8} (some : output ≠ []) : ReadAs output [output] where
  all := List.flatten_singleton
  nonempty _ member := List.mem_singleton.mp member ▸ some

theorem endsAtBreak_echo (command front : List Char) :
    endsAtBreak (command ++ '\n' :: front) = true ↔ front = [] ∨ endsAtBreak front = true := by
  rw [endsAtBreak, List.getLast?_append_of_ne_nil _ (by simp)]
  cases front with
  | nil => simp
  | cons c rest => simp [endsAtBreak]

/-- The echo of the command has a row of its own, so that it does not matter to where the response ends. -/
theorem isComplete_echo_iff {command : List Char} {output : List UInt8} :
    isComplete (command ++ '\n' :: Utf8.decodeLossy output) = true ↔ Prompted output := by
  have ended : isComplete (command ++ '\n' :: Utf8.decodeLossy output) = true ↔
      ∃ front prompt, endsAtBreak front = true ∧ (prompt = continuationPrompt.toList ∨ IsPrompt prompt) ∧
        command ++ '\n' :: Utf8.decodeLossy output = front ++ prompt := by
    rw [isComplete, Bool.or_eq_true, endsInContinuation_iff, endsInPrompt_iff]
    constructor
    · rintro (⟨front, ends, same⟩ | ⟨front, prompt, ends, isPrompt, same⟩)
      · exact ⟨front, _, ends, .inl rfl, same⟩
      · exact ⟨front, prompt, ends, .inr isPrompt, same⟩
    · rintro ⟨front, prompt, ends, rfl | isPrompt, same⟩
      · exact .inl ⟨front, ends, same⟩
      · exact .inr ⟨front, prompt, ends, isPrompt, same⟩
  rw [ended]
  constructor
  · rintro ⟨front, prompt, ends, isPrompt, same⟩
    have unbroken : '\n' ∉ prompt := by
      rcases isPrompt with rfl | isPrompt
      · exact continuationPrompt_breakFree.1
      · exact isPrompt.breakFree.1
    obtain ⟨middle, rfl, rest⟩ | ⟨middle, rfl, rest⟩ := List.append_eq_append_iff.mp same
    · cases middle with
      | nil =>
        rw [List.nil_append] at rest
        exact absurd (rest ▸ List.mem_cons_self) unbroken
      | cons c middle =>
        obtain ⟨rfl, decoded⟩ := List.cons.inj rest
        exact ⟨middle, prompt, decoded, (endsAtBreak_echo _ _).mp ends, isPrompt⟩
    · exact absurd (rest ▸ List.mem_append_right _ List.mem_cons_self) unbroken
  · rintro ⟨front, prompt, decoded, ends, isPrompt⟩
    exact ⟨command ++ '\n' :: front, prompt, (endsAtBreak_echo _ _).mpr ends, isPrompt, by simp [decoded]⟩

instance : DecidablePred Prompted := fun output =>
  decidable_of_iff (isComplete ('\n' :: Utf8.decodeLossy output) = true) (@isComplete_echo_iff [] output)

instance : DecidablePred PromptedEarly := fun output =>
  inferInstanceAs (Decidable (∃ length < output.length, Prompted (output.take length)))

theorem Prompted.getLast?_decodeLossy {output : List UInt8} (prompted : Prompted output) :
    (Utf8.decodeLossy output).getLast? = some ' ' := by
  obtain ⟨front, _, decoded, _, rfl | ⟨digits, _, _, rfl⟩⟩ := prompted
  · rw [decoded, List.getLast?_append_of_ne_nil _ (by decide)]
    rfl
  · rw [decoded, ← List.append_assoc, List.getLast?_append_of_ne_nil _ (by decide)]
    rfl

theorem Prompted.decodeLossy_append {front : List UInt8} (prompted : Prompted front) (back : List UInt8) :
    Utf8.decodeLossy (front ++ back) = Utf8.decodeLossy front ++ Utf8.decodeLossy back :=
  Utf8.decodeLossy_append (by rw [prompted.getLast?_decodeLossy]; decide) back

theorem not_prompted_nil : ¬ Prompted [] := by
  decide

theorem promptedEarly_iff {output : List UInt8} :
    PromptedEarly output ↔ ∃ front back, output = front ++ back ∧ back ≠ [] ∧ Prompted front := by
  constructor
  · rintro ⟨length, inside, prompted⟩
    refine ⟨output.take length, output.drop length, (List.take_append_drop ..).symm, ?_, prompted⟩
    rw [ne_eq, List.drop_eq_nil_iff]
    exact Nat.not_le_of_lt inside
  · rintro ⟨front, back, rfl, more, prompted⟩
    have longer := List.length_pos_of_ne_nil more
    exact ⟨front.length, by rw [List.length_append]; omega, by rwa [List.take_left]⟩

theorem collect_of_prompted (command : List Char) {held : List UInt8} {reads : List (List UInt8)}
    (waiting : ¬ Prompted held) (prompted : Prompted (held ++ reads.flatten)) : ∃ taken later,
      reads = taken ++ later ∧ collect command held reads = some (held ++ taken.flatten, later) ∧
      Prompted (held ++ taken.flatten) ∧
      ∀ fewer, fewer <+: taken → fewer ≠ taken → ¬ Prompted (held ++ fewer.flatten) := by
  induction reads generalizing held with
  | nil =>
    rw [List.flatten_nil, List.append_nil] at prompted
    exact absurd prompted waiting
  | cons read reads ih =>
    rw [collect]
    by_cases complete : Prompted (held ++ read)
    · refine ⟨[read], reads, rfl, ?_, by simpa using complete, fun fewer start less => ?_⟩
      · rw [if_pos (isComplete_echo_iff.mpr complete), List.flatten_singleton]
      · obtain rfl : fewer = [] := (List.prefix_cons_iff.mp start).elim id fun ⟨rest, same, nothing⟩ =>
          absurd (by rw [same, List.prefix_nil.mp nothing]) less
        rwa [List.flatten_nil, List.append_nil]
    · rw [List.flatten_cons, ← List.append_assoc] at prompted
      obtain ⟨taken, later, rfl, taking, ends, first⟩ := ih complete prompted
      refine ⟨read :: taken, later, rfl, ?_, ?_, fun fewer start less => ?_⟩
      · rw [if_neg (mt isComplete_echo_iff.mp complete), taking, List.flatten_cons, List.append_assoc]
      · rwa [List.flatten_cons, ← List.append_assoc]
      · rcases List.prefix_cons_iff.mp start with rfl | ⟨rest, rfl, inner⟩
        · rwa [List.flatten_nil, List.append_nil]
        · rw [List.flatten_cons, ← List.append_assoc]
          exact first rest inner fun same => less (by rw [same])

def responseText (command : String) (bytes : List UInt8) : String :=
  command ++ "\n" ++ String.ofList (Utf8.decodeLossy bytes)

theorem readResponse_cons (command : String) {read : List UInt8} (prompted : Prompted read) (later : List (List UInt8)) :
    readResponse command (read :: later) = some (responseText command read, later) := by
  rw [readResponse, collect, List.nil_append, if_pos (isComplete_echo_iff.mpr prompted)]
  rfl

theorem readResponse_of_prompted (command : String) {output : List UInt8} (prompted : Prompted output)
    {reads : List (List UInt8)} (cut : reads.flatten = output) : ∃ taken later,
      reads = taken ++ later ∧ readResponse command reads = some (responseText command taken.flatten, later) ∧
      Prompted taken.flatten ∧ ∀ fewer, fewer <+: taken → fewer ≠ taken → ¬ Prompted fewer.flatten := by
  have whole : Prompted ([] ++ reads.flatten) := by rwa [List.nil_append, cut]
  obtain ⟨taken, later, parts, taking, ends, first⟩ := collect_of_prompted command.toList not_prompted_nil whole
  refine ⟨taken, later, parts, ?_, ends, first⟩
  rw [readResponse, taking]
  rfl

theorem readResponse_of_not_promptedEarly (command : String) {output : List UInt8} (prompted : Prompted output)
    (late : ¬ PromptedEarly output) {reads : List (List UInt8)} (cut : ReadAs output reads) :
    readResponse command reads = some (responseText command output, []) := by
  obtain ⟨taken, later, rfl, reading, ends, _⟩ := readResponse_of_prompted command prompted cut.all
  have all := cut.all
  rw [List.flatten_append] at all
  cases later with
  | nil =>
    rw [List.flatten_nil, List.append_nil] at all
    rw [reading, all]
  | cons read later =>
    have more : (read :: later).flatten ≠ [] := by
      rw [List.flatten_cons, ne_eq, List.append_eq_nil_iff, not_and]
      exact fun nothing => absurd nothing (cut.nonempty read (by simp))
    exact absurd (promptedEarly_iff.mpr ⟨_, _, all.symm, more, ends⟩) late

/-- Output with a prompt before its end can be cut there: then the response is another text, and the rest is left. -/
theorem readResponse_of_promptedEarly (command : String) {output : List UInt8} (early : PromptedEarly output) :
    ∃ front back, ReadAs output [front, back] ∧
      readResponse command [front, back] = some (responseText command front, [back]) ∧
      responseText command front ≠ responseText command output := by
  obtain ⟨front, back, rfl, more, prompted⟩ := promptedEarly_iff.mp early
  refine ⟨front, back, ⟨by simp, ?_⟩, ?_, ?_⟩
  · rintro read (_ | ⟨_, _ | ⟨_, ⟨⟩⟩⟩)
    · rintro rfl
      exact not_prompted_nil prompted
    · exact more
  · exact readResponse_cons command prompted [back]
  · intro same
    have decoded : Utf8.decodeLossy front = Utf8.decodeLossy (front ++ back) :=
      String.ofList_injective (String.append_right_inj _ |>.mp same)
    rw [prompted.decodeLossy_append, List.self_eq_append_right] at decoded
    exact Utf8.decodeLossyFrom_ne_nil (.inr more) decoded

/-- The response to a command ends with the first read behind which the output read so far ends in a prompt. The way
in which the output is cut into reads does not matter, and nothing of it is left over, exactly if no beginning of it
ends in a prompt. -/
theorem response_boundaries (command : String) {output : List UInt8} (prompted : Prompted output) :
    (∀ reads, ReadAs output reads → ∃ taken later, reads = taken ++ later ∧
      readResponse command reads = some (responseText command taken.flatten, later) ∧
      Prompted taken.flatten ∧ ∀ fewer, fewer <+: taken → fewer ≠ taken → ¬ Prompted fewer.flatten) ∧
    (¬ PromptedEarly output ↔
      ∀ reads, ReadAs output reads → readResponse command reads = some (responseText command output, [])) ∧
    (¬ PromptedEarly output ↔ ∀ reads reads', ReadAs output reads → ReadAs output reads' →
      (readResponse command reads).map (·.1) = (readResponse command reads').map (·.1)) := by
  have whole : ReadAs output [output] := .singleton fun nothing => not_prompted_nil (nothing ▸ prompted)
  refine ⟨fun reads cut => readResponse_of_prompted command prompted cut.all,
    ⟨fun late reads => readResponse_of_not_promptedEarly command prompted late, fun always early => ?_⟩,
    fun late reads reads' cut cut' => ?_, fun same early => ?_⟩
  · obtain ⟨front, back, cut, reading, _⟩ := readResponse_of_promptedEarly command early
    rw [always _ cut] at reading
    exact List.cons_ne_nil _ _ (Prod.mk.inj (Option.some.inj reading)).2.symm
  · rw [readResponse_of_not_promptedEarly command prompted late cut,
      readResponse_of_not_promptedEarly command prompted late cut']
  · obtain ⟨front, back, cut, reading, other⟩ := readResponse_of_promptedEarly command early
    have texts := same _ _ cut whole
    rw [reading, readResponse_cons command prompted [], Option.map_some, Option.map_some] at texts
    exact other (Option.some.inj texts)

/-- However this output comes, its first character cut in two or its row break, the response is all of it. -/
theorem response_boundaries_of_late_prompt :
    let output := Utf8.encode "é\n+++ x + \r\nBrowse[12]> ".toList
    Prompted output ∧ ¬ PromptedEarly output ∧ ∀ reads, ReadAs output reads →
      readResponse "f()" reads = some (responseText "f()" output, []) := by
  intro output
  have prompted : Prompted output := by decide +kernel
  have late : ¬ PromptedEarly output := by decide +kernel
  exact ⟨prompted, late, (response_boundaries "f()" prompted).2.1.mp late⟩

/-- A row of the output begins like a continuation prompt. If a read ends behind it then so does the response, and
the rest of the output is left for the next command. -/
theorem response_parted_at_early_prompt :
    let front := Utf8.encode "x\n+ ".toList
    let back := Utf8.encode "y\nBrowse[1]> ".toList
    Prompted (front ++ back) ∧ ReadAs (front ++ back) [front, back] ∧ ReadAs (front ++ back) [front ++ back] ∧
      readResponse "show()" [front, back] = some ("show()\nx\n+ ", [back]) ∧
      readResponse "show()" [front ++ back] = some ("show()\nx\n+ y\nBrowse[1]> ", []) :=
  ⟨by decide +kernel, ⟨by decide +kernel, by decide +kernel⟩, ⟨by decide +kernel, by decide +kernel⟩,
    by decide +kernel, by decide +kernel⟩

end Piped
end RStepper
