import RStepper.Interpreter.Scripted
import RStepper.Proofs.Exchanges

/-! What the interpreter says on its diagnostic stream is written down once for each reply, in the order of
the replies, whichever part of the debugger asked. An error among it ends the step or the evaluation that
asked, before the kind of the reply is looked at. -/

namespace RStepper
variable {σ : Type}

namespace Diagnostics
open Text

/-- The first line that starts with `Error` behind its blanks, and that line without them. -/
def ReportsError (diagnostics line : String) : Prop :=
  ∃ before shown behind, lines diagnostics.toList = before ++ shown :: behind ∧ trimStart shown = line.toList ∧
    "Error".toList <+: trimStart shown ∧ ∀ other ∈ before, ¬ "Error".toList <+: trimStart other

theorem runtimeError_eq_some_iff {diagnostics line : String} :
    runtimeError diagnostics = some line ↔ ReportsError diagnostics line := by
  have starts (shown : Line) : startsWith "Error" shown = true ↔ "Error".toList <+: shown := List.isPrefixOf_iff_prefix
  simp only [runtimeError, ReportsError, Option.map_eq_some_iff, List.find?_map, List.find?_eq_some_iff_append,
    Function.comp_apply, starts, Bool.not_eq_true', ← Bool.not_eq_true]
  constructor
  · rintro ⟨_, ⟨shown, ⟨reports, before, behind, split, silent⟩, rfl⟩, rfl⟩
    exact ⟨before, shown, behind, split, String.toList_ofList.symm, reports, silent⟩
  · rintro ⟨before, shown, behind, split, trimmed, reports, silent⟩
    exact ⟨_, ⟨shown, ⟨reports, before, behind, split, silent⟩, rfl⟩, by rw [trimmed, String.ofList_toList]⟩

end Diagnostics

theorem Response.classify_raw {text : String} {response : Response} (classified : classify text = some response) :
    response.raw = text := by
  unfold classify at classified
  split at classified <;> cases classified
  rfl

def Channel.errors (channel : Channel σ) : List String :=
  (channel.records.filter Record.isDiagnostic).map Record.text

namespace Sending

def diagnostics (sending : Sending) : String :=
  match sending.reply with
  | .said _ diagnostics => diagnostics
  | .closed | .pending => ""

/-- What there is to write down of a reply. An incomplete one is not looked at. -/
def diagnosed? (sending : Sending) : Option String :=
  if sending.response?.isSome ∧ sending.diagnostics ≠ "" then some sending.diagnostics else none

/-- The failure that a reply stands for, whatever was expected. -/
def fault? (sending : Sending) : Option Failure :=
  match sending.reply with
  | .said body diagnostics =>
    let raw := sending.command ++ "\n" ++ body
    match Response.classify raw with
    | none => some (.incomplete sending.command raw)
    | some _ => (Diagnostics.runtimeError diagnostics).map (.runtime sending.command · raw)
  | .closed | .pending => some (.channel sending.command)

theorem fault?_of_reportsError {sending : Sending} {response : Response} {line : String}
    (classified : sending.response? = some response) (reports : Diagnostics.ReportsError sending.diagnostics line) :
    sending.fault? = some (.runtime sending.command line response.raw) := by
  obtain ⟨command, reply, position⟩ := sending
  cases reply with
  | said body diagnostics =>
    have found : Response.classify (command ++ "\n" ++ body) = some response := classified
    have line : Diagnostics.runtimeError diagnostics = some line := Diagnostics.runtimeError_eq_some_iff.mpr reports
    simp [fault?, found, line, Response.classify_raw found]
  | closed | pending => cases classified

end Sending

namespace Channel

theorem errors_write (channel : Channel σ) (record : Record) :
    (channel.write record).errors =
      channel.errors ++ if record.isDiagnostic ∧ record.text ≠ "" then [record.text] else [] := by
  rw [errors, records_write]
  by_cases empty : record.text = ""
  · simp [empty, errors]
  · cases kind : record.isDiagnostic <;> simp [empty, errors, kind]

theorem errors_ask [Interpreter σ] (channel : Channel σ) (command : String) :
    (channel.ask command).2.errors = channel.errors := by
  rw [errors, records_ask]
  rfl

/-- All that was written down of errors is what the replies told, each at its turn. -/
def Diagnosed (channel : Channel σ) : Prop :=
  channel.errors = channel.sendings.filterMap Sending.diagnosed?

/-- Behind the first reply that reports an error nothing more is sent, and that error is the failure. -/
def Heeds (before : Channel σ) (ended : Option Failure) (after : Channel σ) : Prop :=
  ∃ more, after.sendings = before.sendings ++ more ∧ ∀ earlier sending later response line,
    more = earlier ++ sending :: later → sending.response? = some response →
      Diagnostics.ReportsError sending.diagnostics line →
        later = [] ∧ ended = some (.runtime sending.command line response.raw)

end Channel

namespace Talk

variable [Interpreter σ]

/-- A command writes down what its reply holds of diagnostics, and fails as its reply says. -/
theorem execute_diagnosed (command : String) (channel : Channel σ) :
    let ran := (execute command : Talk σ Response).runOver channel
    ran.2.errors = channel.errors ++ (channel.sending command).diagnosed?.toList ∧
      failure? ran.1 = (channel.sending command).fault? := by
  have asked := channel.errors_ask command
  rw [runOver_execute]
  unfold Channel.sending
  generalize channel.ask command = answer at asked ⊢
  obtain ⟨reply, later⟩ := answer
  cases reply with
  | said body diagnostics =>
    dsimp only
    rw [runOver_receive]
    cases classified : Response.classify (command ++ "\n" ++ body) with
    | none => simp [failure?, Sending.diagnosed?, Sending.response?, Sending.fault?, classified, asked]
    | some response =>
      have written := Channel.errors_write later ⟨diagnostics, true⟩
      by_cases empty : diagnostics = "" <;> cases reported : Diagnostics.runtimeError diagnostics <;>
        simp_all [failure?, Sending.diagnosed?, Sending.response?, Sending.fault?, Sending.diagnostics]
  | closed | pending => simp [failure?, Sending.diagnosed?, Sending.response?, Sending.fault?, asked]

end Talk

/-- A reply that stands for a failure is the last one, and its failure is that of the whole. -/
def Heeded (more : List Sending) (ended : Option Failure) : Prop :=
  ∀ earlier sending later failure, more = earlier ++ sending :: later → sending.fault? = some failure →
    later = [] ∧ ended = some failure

theorem Heeded.faultless {more : List Sending} (heeded : Heeded more none) {sending : Sending}
    (member : sending ∈ more) : sending.fault? = none := by
  obtain ⟨earlier, later, split⟩ := List.append_of_mem member
  cases fault : sending.fault? with
  | none => rfl
  | some failure => exact absurd (heeded _ _ _ _ split fault).2 nofun

theorem Heeded.append {some more : List Sending} {ended : Option Failure} (begun : Heeded some none)
    (rest : Heeded more ended) : Heeded (some ++ more) ended := by
  intro earlier sending later failure split fault
  rcases List.append_eq_append_iff.mp split with ⟨between, earlier, split⟩ | ⟨between, early, split⟩
  · exact rest _ _ _ _ split fault
  · cases between with
    | nil => exact rest [] _ _ _ split.symm fault
    | cons first others =>
      obtain ⟨rfl, -⟩ := List.cons_eq_cons.mp split
      have clean := begun.faultless (early ▸ List.mem_append_right earlier List.mem_cons_self)
      rw [fault] at clean
      cases clean

theorem Channel.heeds_of_heeded {before after : Channel σ} {ended : Option Failure} {more : List Sending}
    (sent : after.sendings = before.sendings ++ more) (heeded : Heeded more ended) : before.Heeds ended after :=
  ⟨more, sent, fun _ _ _ _ _ split classified reports =>
    heeded _ _ _ _ split (Sending.fault?_of_reportsError classified reports)⟩

theorem Channel.Diagnosed.carried {before after : Channel σ} (diagnosed : before.Diagnosed)
    (carried : ∃ more, after.sendings = before.sendings ++ more ∧
      after.errors = before.errors ++ more.filterMap Sending.diagnosed?) : after.Diagnosed := by
  obtain ⟨more, sent, told⟩ := carried
  rw [Channel.Diagnosed, told, sent, List.filterMap_append, ← diagnosed]

section Acts
variable [Interpreter σ]

theorem carries_diagnosed : Carries fun before after : Channel σ =>
    ∃ more, after.sendings = before.sendings ++ more ∧
      after.errors = before.errors ++ more.filterMap Sending.diagnosed? where
  refl channel := ⟨[], by simp, by simp⟩
  trans := by
    rintro first middle last ⟨some, begun, early⟩ ⟨more, ended, late⟩
    refine ⟨some ++ more, by rw [ended, begun, List.append_assoc], ?_⟩
    rw [late, early, List.filterMap_append, List.append_assoc]
  prints text channel := ⟨[], by simp, by simp [Channel.errors_write]⟩
  asks command channel := by
    refine ⟨[channel.sending command], Talk.sendings_execute command channel, ?_⟩
    rw [(Talk.execute_diagnosed command channel).1]
    cases diagnosed : (channel.sending command).diagnosed? <;> simp [diagnosed]

/-- Without going on behind errors, nothing is sent behind a reply that stands for a failure. -/
theorem judgement_heeded (means : Means) (honest : means.catches = false) :
    Judgement means fun (before : Channel σ) ended after =>
      ∃ more, after.sendings = before.sendings ++ more ∧ Heeded more ended where
  rests channel _ := ⟨[], by simp, fun _ _ _ _ split => by simp at split⟩
  prints _ text channel := ⟨[], by simp, fun _ _ _ _ split => by simp at split⟩
  asks command channel := by
    refine ⟨[channel.sending command], Talk.sendings_execute command channel, ?_⟩
    intro earlier sending later failure split fault
    obtain ⟨rfl, rfl, rfl⟩ : earlier = [] ∧ sending = channel.sending command ∧ later = [] := by
      cases earlier <;> simp_all
    exact ⟨rfl, (Talk.execute_diagnosed command channel).2.trans fault⟩
  goesOn := by
    rintro first middle last ended ⟨some, begun, early⟩ ⟨more, further, late⟩
    exact ⟨some ++ more, by rw [further, begun, List.append_assoc], early.append late⟩
  catching may := by rw [honest] at may; cases may

namespace Debuggee

theorem after_diagnosed (source : String) (interpreter : σ) (operations : List Operation) :
    (after source interpreter operations).channel.Diagnosed := by
  apply after_induction (motive := fun debuggee => debuggee.channel.Diagnosed)
  · rfl
  · intro debuggee operation diagnosed
    exact diagnosed.carried (carries_diagnosed.operate debuggee operation)

theorem moved_diagnosed (source : String) (interpreter : σ) (breakpoints : Breakpoints) (moves : List Move) :
    ((Chronicle.begin source interpreter breakpoints).moved moves).worker.debuggee.channel.Diagnosed := by
  apply Chronicle.moved_induction (motive := fun chronicle => chronicle.worker.debuggee.channel.Diagnosed)
  · unfold Chronicle.begin Worker.start
    split <;> rfl
  · intro chronicle move diagnosed
    exact diagnosed.carried (carries_diagnosed.move chronicle move)

theorem advance_heeds (debuggee : Debuggee σ) :
    debuggee.channel.Heeds (failure? debuggee.advance.1) debuggee.advance.2.channel := by
  obtain ⟨more, sent, heeded⟩ := debuggee.advance_judged (judgement_heeded ⟨true, false⟩ rfl) rfl
  exact Channel.heeds_of_heeded sent heeded

theorem evaluate_heeds (debuggee : Debuggee σ) (expression : String) :
    let (outcome, later) := debuggee.during (Inspect.evaluate expression)
    debuggee.channel.Heeds (failure? outcome) later.channel := by
  obtain ⟨more, sent, heeded⟩ := debuggee.during_judged (judgement_heeded ⟨true, false⟩ rfl)
    (Inspect.built_evaluate expression)
  exact Channel.heeds_of_heeded sent heeded

/-- Whatever is done to a program or to its worker, the errors written down are those of the replies, each
once and in their order. A step and an evaluation send nothing behind the first reply that reports an error,
and fail with it. -/
theorem diagnostics_heeded (source : String) (interpreter : σ) (operations : List Operation)
    (breakpoints : Breakpoints) (moves : List Move) :
    let debuggee := after source interpreter operations
    let worker := ((Chronicle.begin source interpreter breakpoints).moved moves).worker
    debuggee.channel.Diagnosed ∧ worker.debuggee.channel.Diagnosed ∧
      ∀ paused : Debuggee σ,
        (let (outcome, later) := paused.advance
        paused.channel.Heeds (failure? outcome) later.channel) ∧
        ∀ expression, let (outcome, later) := paused.during (Inspect.evaluate expression)
          paused.channel.Heeds (failure? outcome) later.channel :=
  ⟨after_diagnosed .., moved_diagnosed .., fun paused => ⟨paused.advance_heeds, paused.evaluate_heeds⟩⟩

/-- A step whose listing of functions is answered with an error in its second line. -/
example :
    let debuggee := after "x <- 1" (Scripted.mk []
      [.said "Browse[1]> " "", .said "Browse[1]> " "Warning: old\n  Error in ls: no frame"] 0) []
    debuggee.advance.1.toOption = none ∧
      debuggee.advance.2.channel.errors = ["Warning: old\n  Error in ls: no frame"] ∧
      debuggee.advance.2.channel.sent = ["x <- 1", Instrument.listFunctions] := by decide +kernel

end Debuggee
end Acts
end RStepper
