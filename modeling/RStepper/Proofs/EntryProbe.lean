import Mathlib.Logic.Function.Iterate
import RStepper.Proofs.ErrorReports
import RStepper.Proofs.LoopHeaders
import RStepper.Proofs.ResponseRange

/-! Looking for the entry of a call takes at most four steps. The replies to them are read one by one, up to the first that
is no step of the tracing wrapper, and at most up to the fourth. What that one is decides how the probe ends, and what the
interpreter would say behind it is not read. -/

namespace RStepper
open Text
variable {σ : Type}

/-- A step inside the tracing wrapper: plain output, or a pause whose first announcement of the current line has no number. -/
inductive Sending.Wraps (sending : Sending) : Prop where
  | printed {response} (clean : sending.fault? = none) (answered : sending.response? = some response)
      (kind : response.kind = .printed)
  | unnumbered {response mark} (clean : sending.fault? = none) (answered : sending.response? = some response)
      (kind : response.kind = .paused) (first : response.body.find? Marker.isCurrentLine = some mark)
      (bare : "debug: ".toList <+: mark)

/-- The entry hook has run, and this is the call that was entered. -/
structure Sending.Enters (sending : Sending) (entry : Entry) : Prop where
  clean : sending.fault? = none
  answered : sending.response? = some entry.response
  kind : entry.response.kind = entry.shape.traceKind
  name : entry.name = Entry.enteredName entry.response.text

/-- The reply ends a probe that it does not bring to an entry hook. The last reply that is read may be no wrapper step. -/
inductive Sending.Refused (last : Bool) (sending : Sending) : Failure → Prop where
  | faulty {failure} (fault : sending.fault? = some failure) : Refused last sending failure
  | misplaced {response} (clean : sending.fault? = none) (answered : sending.response? = some response)
      (untraced : response.kind ∉ [Kind.tracedBlock, .tracedExpression]) (other : last = false → ¬ sending.Wraps) :
      Refused last sending (.unexpected "n" response.kind
        (if last then [.tracedBlock, .tracedExpression] else [.printed, .tracedBlock, .tracedExpression]) response.raw)

namespace Channel
variable [Interpreter σ]

/-- The interpreter behind so many steps. -/
def interpreterAfter (channel : Channel σ) (count : Nat) : σ :=
  (fun state => (Interpreter.answer state stepCommand).2)^[count] channel.interpreter

/-- What the interpreter says to the step with this index, if there are only steps before it. -/
def stepReply (channel : Channel σ) (index : Nat) : Sending :=
  ⟨stepCommand, (Interpreter.answer (channel.interpreterAfter index) stepCommand).1, channel.sendings.length + index⟩

/-- So many steps were taken and nothing else was sent, and the interpreter is asked for no more. -/
structure Reads (before : Channel σ) (count : Nat) (after : Channel σ) : Prop where
  sendings : after.sendings = before.sendings ++ (List.range count).map before.stepReply
  interpreter : after.interpreter = before.interpreterAfter count

theorem Reads.one (channel : Channel σ) :
    channel.Reads 1 ((Talk.execute stepCommand : Talk σ Response).runOver channel).2 where
  sendings := Talk.sendings_execute stepCommand channel
  interpreter := (Channel.interpreter_execute stepCommand channel).1

theorem Reads.interpreterAfter {before after : Channel σ} {count : Nat} (reads : before.Reads count after) (more : Nat) :
    after.interpreterAfter more = before.interpreterAfter (count + more) := by
  rw [Channel.interpreterAfter, Channel.interpreterAfter, reads.interpreter, Nat.add_comm, Function.iterate_add_apply]
  rfl

theorem Reads.stepReply {before after : Channel σ} {count : Nat} (reads : before.Reads count after) (index : Nat) :
    after.stepReply index = before.stepReply (count + index) := by
  have passed : after.sendings.length = before.sendings.length + count := by rw [reads.sendings]; simp
  rw [Channel.stepReply, Channel.stepReply, reads.interpreterAfter, passed, Nat.add_assoc]

theorem Reads.trans {first middle last : Channel σ} {count more : Nat} (begun : first.Reads count middle)
    (ended : middle.Reads more last) : first.Reads (count + more) last where
  sendings := by
    have later : (List.range more).map middle.stepReply = (List.range more).map (first.stepReply <| count + ·) :=
      List.map_congr_left fun index _ => begun.stepReply index
    rw [ended.sendings, begun.sendings, later, List.range_add, List.map_append, List.map_map, List.append_assoc]
    rfl
  interpreter := ended.interpreter.trans (begun.interpreterAfter more)

end Channel

namespace Entry
variable [Interpreter σ]

theorem find?_isCurrentLine {sending : Sending} {response : Response} (answered : sending.response? = some response) :
    (lines response.text.toList).find? Marker.isCurrentLine = response.body.find? Marker.isCurrentLine := by
  obtain ⟨command, reply, position⟩ := sending
  cases reply with
  | said body diagnostics =>
    rw [Response.text_eq_joinLines answered]
    exact find?_lines_joinLines response.body_breakFree (by decide)
  | closed | pending => cases answered

theorem isWrapperStep_iff {sending : Sending} {response : Response} (clean : sending.fault? = none)
    (answered : sending.response? = some response) : isWrapperStep response = true ↔ sending.Wraps := by
  have bare (mark : Line) : Marker.isUnnumbered mark = true ↔ "debug: ".toList <+: mark := List.isPrefixOf_iff_prefix
  constructor
  · intro wraps
    unfold isWrapperStep at wraps
    split at wraps
    next kind => exact .printed clean answered kind
    next kind =>
      rw [find?_isCurrentLine answered, Option.any_eq_true] at wraps
      obtain ⟨mark, first, unnumbered⟩ := wraps
      exact .unnumbered clean answered kind first ((bare mark).mp unnumbered)
    next => cases wraps
  · intro wraps
    cases wraps with
    | printed _ same kind =>
      cases answered.symm.trans same
      rw [isWrapperStep, kind]
    | @unnumbered _ mark _ same kind first unnumbered =>
      cases answered.symm.trans same
      rw [isWrapperStep, kind]
      dsimp only
      rw [find?_isCurrentLine answered, first]
      exact (bare mark).mpr unnumbered

/-- A step goes wrong, or enters the call, or leaves it to the rest of the probe what its response means. -/
theorem step_cases (otherwise : Response → Talk σ Entry) (channel : Channel σ) :
    let reply := channel.stepReply 0
    ∃ later, channel.Reads 1 later ∧
      ((∃ failure, reply.fault? = some failure ∧ (step otherwise).runOver channel = (.error failure, later)) ∨
        (∃ entry, reply.Enters entry ∧ (step otherwise).runOver channel = (.ok entry, later)) ∨
        ∃ response, reply.fault? = none ∧ reply.response? = some response ∧
          response.kind ∉ [Kind.tracedBlock, .tracedExpression] ∧
          (step otherwise).runOver channel = (otherwise response).runOver later) := by
  intro reply
  have reads := Channel.Reads.one channel
  have fault : failure? ((Talk.execute stepCommand : Talk σ Response).runOver channel).1 = reply.fault? :=
    (Talk.execute_diagnosed stepCommand channel).2
  rcases asked : (Talk.execute stepCommand : Talk σ Response).runOver channel with ⟨failure | response, later⟩ <;>
    rw [asked] at reads fault
  · refine ⟨later, reads, .inl ⟨failure, fault.symm, ?_⟩⟩
    rw [step, Talk.runOver_bind, asked]
  · have answered : reply.response? = some response := Talk.response?_of_execute asked
    have ran : (step otherwise).runOver channel = _ := Talk.runOver_bind _ _ channel
    rw [asked] at ran
    dsimp only at ran
    refine ⟨later, reads, .inr ?_⟩
    cases traced : BodyShape.ofTrace? response.kind with
    | some shape =>
      rw [traced] at ran
      have kind : response.kind = shape.traceKind := by
        unfold BodyShape.ofTrace? at traced
        split at traced <;> cases traced <;> assumption
      exact .inl ⟨_, ⟨fault.symm, answered, kind, rfl⟩, ran⟩
    | none =>
      rw [traced] at ran
      refine .inr ⟨response, fault.symm, answered, ?_, ran⟩
      intro inside
      rcases List.mem_pair.mp inside with same | same <;> rw [same] at traced <;> cases traced

/-- How a probe ends at a reply. -/
inductive Ends (last : Bool) (sending : Sending) : Except Failure Entry → Prop where
  | enters {entry} (enters : sending.Enters entry) : Ends last sending (.ok entry)
  | refused {failure} (refused : sending.Refused last failure) : Ends last sending (.error failure)

/-- The probe reads replies of wrapper steps, as many as it may, and the one that it ends at. -/
theorem findWithin_ends (steps : Nat) (channel : Channel σ) :
    let ran := (findWithin steps : Talk σ Entry).runOver channel
    ∃ index ≤ steps, (∀ earlier < index, (channel.stepReply earlier).Wraps) ∧ channel.Reads (index + 1) ran.2 ∧
      Ends (index == steps) (channel.stepReply index) ran.1 := by
  induction steps generalizing channel with
  | zero =>
    obtain ⟨later, reads, ⟨failure, fault, ran⟩ | ⟨entry, enters, ran⟩ | ⟨response, clean, answered, untraced, ran⟩⟩ :=
      step_cases (fun response => throw (Talk.unexpected stepCommand response traceKinds)) channel
    · rw [findWithin, ran]
      exact ⟨0, Nat.le_refl 0, nofun, reads, .refused (.faulty fault)⟩
    · rw [findWithin, ran]
      exact ⟨0, Nat.le_refl 0, nofun, reads, .enters enters⟩
    · rw [findWithin, ran]
      exact ⟨0, Nat.le_refl 0, nofun, reads, .refused (.misplaced clean answered untraced nofun)⟩
  | succ steps ih =>
    obtain ⟨later, reads, ⟨failure, fault, ran⟩ | ⟨entry, enters, ran⟩ | ⟨response, clean, answered, untraced, ran⟩⟩ :=
      step_cases (fun response => if isWrapperStep response then findWithin steps
        else throw (Talk.unexpected stepCommand response probeKinds)) channel
    · rw [findWithin, ran]
      exact ⟨0, Nat.zero_le _, nofun, reads, .refused (.faulty fault)⟩
    · rw [findWithin, ran]
      exact ⟨0, Nat.zero_le _, nofun, reads, .enters enters⟩
    · rw [findWithin, ran]
      by_cases wrapper : isWrapperStep response = true
      · have first : (channel.stepReply 0).Wraps := (isWrapperStep_iff clean answered).mp wrapper
        obtain ⟨index, few, wraps, further, ends⟩ := ih later
        rw [if_pos wrapper]
        simp only [reads.stepReply, Nat.add_comm 1] at wraps ends
        refine ⟨index + 1, Nat.succ_le_succ few, ?_, Nat.add_comm 1 _ ▸ reads.trans further, ?_⟩
        · rintro (_ | earlier) before
          · exact first
          · exact wraps earlier (Nat.lt_of_succ_lt_succ before)
        · have same : (index + 1 == steps + 1) = (index == steps) := by simp
          rw [same]
          exact ends
      · rw [if_neg wrapper]
        have other : ¬ (channel.stepReply 0).Wraps := fun wraps => wrapper ((isWrapperStep_iff clean answered).mpr wraps)
        exact ⟨0, Nat.zero_le _, nofun, reads, .refused (.misplaced clean answered untraced fun _ => other)⟩

theorem traced_of_enters {sending : Sending} {entry : Entry} (enters : sending.Enters entry) :
    entry.response.kind ∈ [Kind.tracedBlock, .tracedExpression] := by
  rw [enters.kind]
  cases entry.shape <;> decide

theorem Ends.not_wraps {last : Bool} {sending : Sending} {outcome : Except Failure Entry} (ends : Ends last sending outcome)
    (more : last = false) : ¬ sending.Wraps := by
  intro wraps
  obtain ⟨response, clean, answered, untraced⟩ : ∃ response, sending.fault? = none ∧ sending.response? = some response ∧
      response.kind ∉ [Kind.tracedBlock, .tracedExpression] := by
    cases wraps with
    | printed clean answered kind | unnumbered clean answered kind => exact ⟨_, clean, answered, by rw [kind]; decide⟩
  cases ends with
  | enters enters =>
    cases answered.symm.trans enters.answered
    exact untraced (traced_of_enters enters)
  | refused refused =>
    cases refused with
    | faulty fault => cases clean.symm.trans fault
    | misplaced _ _ _ other => exact other more wraps

theorem Enters.unique {sending : Sending} {one other : Entry} (first : sending.Enters one) (second : sending.Enters other) :
    one = other := by
  have response : one.response = other.response := Option.some.inj (first.answered.symm.trans second.answered)
  have kind : one.shape.traceKind = other.shape.traceKind := by rw [← first.kind, ← second.kind, response]
  have shape : one.shape = other.shape := by
    cases first : one.shape <;> cases second : other.shape <;> rw [first, second] at kind <;> trivial
  have name : one.name = other.name := by rw [first.name, second.name, response]
  cases one
  cases other
  cases response
  cases shape
  cases name
  rfl

theorem Enters.not_refused {last : Bool} {sending : Sending} {entry : Entry} {failure : Failure}
    (enters : sending.Enters entry) : ¬ sending.Refused last failure := by
  intro refused
  cases refused with
  | faulty fault => cases enters.clean.symm.trans fault
  | misplaced _ answered untraced _ =>
    cases answered.symm.trans enters.answered
    exact untraced (traced_of_enters enters)

theorem Refused.unique {last : Bool} {sending : Sending} {one other : Failure} (first : sending.Refused last one)
    (second : sending.Refused last other) : one = other := by
  cases first with
  | faulty fault =>
    cases second with
    | faulty again => exact Option.some.inj (fault.symm.trans again)
    | misplaced clean => cases clean.symm.trans fault
  | misplaced clean answered _ _ =>
    cases second with
    | faulty fault => cases clean.symm.trans fault
    | misplaced _ again =>
      cases answered.symm.trans again
      rfl

theorem Ends.unique {last : Bool} {sending : Sending} {one other : Except Failure Entry} (first : Ends last sending one)
    (second : Ends last sending other) : one = other := by
  cases first with
  | enters enters =>
    cases second with
    | enters same => exact congrArg _ (Enters.unique enters same)
    | refused refused => exact absurd refused (Enters.not_refused enters)
  | refused refused =>
    cases second with
    | enters enters => exact absurd refused (Enters.not_refused enters)
    | refused same => exact congrArg _ (Refused.unique refused same)

/-- Looking for an entry sends the step command, at least once and at most four times. It succeeds exactly if one of the
first four replies comes from an entry hook and all before it from the wrapper, and fails exactly if one of them is
neither, or the fourth is no entry; behind the reply that decides nothing is read. -/
theorem entry_probed (channel : Channel σ) :
    let reply := channel.stepReply
    let ran := (find : Talk σ Entry).runOver channel
    (∀ index, (reply index).command = "n") ∧
    (∃ count, 1 ≤ count ∧ count ≤ 4 ∧ channel.Reads count ran.2) ∧
    (∀ entry, ran.1 = .ok entry ↔
      ∃ index < 4, (∀ earlier < index, (reply earlier).Wraps) ∧ (reply index).Enters entry) ∧
    (∀ failure, ran.1 = .error failure ↔
      ∃ index < 4, (∀ earlier < index, (reply earlier).Wraps) ∧ (reply index).Refused (index == 3) failure) ∧
    ∀ index < 4, (∀ earlier < index, (reply earlier).Wraps) → (index < 3 → ¬ (reply index).Wraps) →
      channel.Reads (index + 1) ran.2 := by
  intro reply ran
  obtain ⟨index, few, wraps, reads, ends⟩ := findWithin_ends wrapperSteps channel
  change index ≤ 3 at few
  change Ends (index == 3) (reply index) ran.1 at ends
  have stops {other : Nat} {outcome : Except Failure Entry} (ends : Ends (other == 3) (reply other) outcome)
      (before : other < 3) : ¬ (reply other).Wraps := ends.not_wraps (beq_false_of_ne (Nat.ne_of_lt before))
  -- Only one reply can be the first that is none of the wrapper's.
  have only {other : Nat} (within : other < 4) (before : ∀ earlier < other, (reply earlier).Wraps)
      (here : other < 3 → ¬ (reply other).Wraps) : other = index := by
    rcases Nat.lt_trichotomy other index with less | same | more
    · exact absurd (wraps other less) (here (by omega))
    · exact same
    · exact absurd (before index more) (stops ends (by omega))
  have decided {other : Nat} {outcome : Except Failure Entry} (within : other < 4)
      (before : ∀ earlier < other, (reply earlier).Wraps) (here : Ends (other == 3) (reply other) outcome) :
      ran.1 = outcome := by
    obtain rfl := only within before (stops here)
    exact ends.unique here
  refine ⟨fun _ => rfl, ⟨index + 1, by omega, by omega, reads⟩, fun entry => ⟨fun found => ?_, ?_⟩,
    fun failure => ⟨fun failed => ?_, ?_⟩, fun other within before here => only within before here ▸ reads⟩
  · rw [found] at ends
    cases ends with
    | enters enters => exact ⟨index, by omega, wraps, enters⟩
  · rintro ⟨other, within, before, enters⟩
    exact decided within before (.enters enters)
  · rw [failed] at ends
    cases ends with
    | refused refused => exact ⟨index, by omega, wraps, refused⟩
  · rintro ⟨other, within, before, refused⟩
    exact decided within before (.refused refused)

/-- A fourth step of the wrapper is no longer taken for one. -/
example :
    let said := Reply.said "starting\nBrowse[2]> " ""
    let ran := (find : Talk Scripted Entry).runOver (.fresh ⟨[], [said, said, said, said, said], 0⟩)
    failure? ran.1 = some (.unexpected "n" .printed [.tracedBlock, .tracedExpression] "n\nstarting\nBrowse[2]> ") ∧
      ran.2.interpreter.replies = [said] := by decide +kernel

/-- Three steps of the wrapper, the entry hook of `f`, and a reply behind it. -/
def wrappedEntry : Scripted where
  rules := []
  replies := [
    .said "starting\nBrowse[2]> " "",
    .said "debug: .doTrace(hook(), \"on entry\")\nBrowse[2]> " "",
    .said "[1] 1\nBrowse[2]> " "",
    .said "Tracing f() on entry\n[1] \"f\"\ndebug: 7\nBrowse[2]> " "",
    .said "[1] 7\nBrowse[1]> " ""]
  ruledSteps := 0

private theorem wrappedEntry_wraps : ∀ index < 3, ((Channel.fresh wrappedEntry).stepReply index).Wraps := by
  have printed {index : Nat} (clean : ((Channel.fresh wrappedEntry).stepReply index).fault? = none)
      (kind : ((Channel.fresh wrappedEntry).stepReply index).response?.map Response.kind = some .printed) :
      ((Channel.fresh wrappedEntry).stepReply index).Wraps := by
    obtain ⟨response, answered, kind⟩ := Option.map_eq_some_iff.mp kind
    exact .printed clean answered kind
  have paused : ((Channel.fresh wrappedEntry).stepReply 1).response?.map
      (fun response => (response.kind, response.body.find? Marker.isCurrentLine)) =
        some (.paused, some "debug: .doTrace(hook(), \"on entry\")".toList) := by decide +kernel
  obtain ⟨response, answered, told⟩ := Option.map_eq_some_iff.mp paused
  rintro (_ | _ | _ | index) before
  · exact printed (by decide +kernel) (by decide +kernel)
  · exact .unnumbered (by decide +kernel) answered (congrArg Prod.fst told) (congrArg Prod.snd told) (by decide)
  · exact printed (by decide +kernel) (by decide +kernel)
  · omega

theorem wrappedEntry_probed :
    let channel := Channel.fresh wrappedEntry
    let ran := (find : Talk Scripted Entry).runOver channel
    (∀ index < 3, (channel.stepReply index).Wraps) ∧ channel.Reads 4 ran.2 ∧
      ran.1.toOption.map (fun entry => (entry.name, entry.shape)) = some ("f", .expression) ∧
      ran.2.interpreter.replies = [.said "[1] 7\nBrowse[1]> " ""] := by
  intro channel ran
  obtain ⟨_, _, _, _, reads⟩ := entry_probed channel
  exact ⟨wrappedEntry_wraps, reads 3 (by decide) wrappedEntry_wraps fun before => absurd before (Nat.lt_irrefl 3),
    by decide +kernel, by decide +kernel⟩

end Entry
end RStepper
