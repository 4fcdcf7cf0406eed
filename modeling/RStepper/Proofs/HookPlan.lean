import RStepper.Proofs.ErrorReports
import RStepper.Proofs.LoopHeaders
import RStepper.Proofs.QuotedNames
import RStepper.Proofs.StringLiterals

/-! How functions are hooked up: what is sent is planned from the listing alone, and the plan is carried out up to the
first command that is not answered as it is to be. The names of the hooks tell the function and the hook apart, and no
listing leads to a hook being hooked up itself. -/

namespace RStepper
variable {σ : Type}

/-- The command was answered as it is to be: completely, without an error, and by a response of this kind. -/
structure Sending.Succeeds (sending : Sending) (command : String) (kind : Kind) : Prop where
  command : sending.command = command
  clean : sending.fault? = none
  response : sending.response?.map Response.kind = some kind

/-- What a reply fails with where a response of one kind is due. -/
def Sending.failureFor? (sending : Sending) (kind : Kind) : Option Failure :=
  match sending.fault?, sending.response? with
  | some failure, _ => some failure
  | none, some response => if response.kind = kind then none else some (Talk.unexpected sending.command response [kind])
  | none, none => none

namespace Talk
variable [Interpreter σ]

theorem succeeds_expecting {command : String} {expected : List Kind} {channel later : Channel σ} {response : Response}
    (ran : (expecting command expected).runOver channel = (.ok response, later)) :
    later.sendings = channel.sendings ++ [channel.sending command] ∧ (channel.sending command).response? = some response ∧
      (channel.sending command).Succeeds command response.kind ∧ response.kind ∈ expected := by
  obtain ⟨executed, placed⟩ := expecting_ok ran
  have sent := sendings_execute command channel
  have clean := (execute_diagnosed command channel).2
  rw [executed] at sent clean
  have found := response?_of_execute executed
  exact ⟨sent, found, ⟨rfl, clean.symm, by rw [found]; rfl⟩, placed⟩

theorem fails_expecting {command : String} {kind : Kind} {channel later : Channel σ} {failure : Failure}
    (ran : (expecting command [kind]).runOver channel = (.error failure, later)) :
    later.sendings = channel.sendings ++ [channel.sending command] ∧
      (channel.sending command).failureFor? kind = some failure := by
  have sent := sendings_expecting command [kind] channel
  rw [ran] at sent
  refine ⟨sent, ?_⟩
  have fault := (execute_diagnosed command channel).2
  unfold Sending.failureFor?
  rcases bind_error ran with failed | ⟨response, middle, executed, misplaced⟩
  · rw [failed] at fault
    rw [← fault]
    rfl
  · rw [executed] at fault
    rw [← fault, response?_of_execute executed]
    split at misplaced
    · cases misplaced
    next other =>
      cases misplaced
      exact if_neg fun same => other (List.mem_singleton.mpr same)

end Talk

theorem failure?_eq_none_iff {outcome : Except Failure Unit} : failure? outcome = none ↔ outcome = .ok () := by
  cases outcome <;> simp [failure?]

theorem failure?_eq_some_iff {outcome : Except Failure Unit} {failure : Failure} :
    failure? outcome = some failure ↔ outcome = .error failure := by
  cases outcome <;> simp [failure?]

namespace Instrument

/-- All of a plan was sent, and answered as it is to be. -/
def Fulfilled (plan : List (String × Kind)) (sent : List Sending) : Prop :=
  List.Forall₂ (fun entry sending => sending.Succeeds entry.1 entry.2) plan sent

/-- A plan was fulfilled up to a command whose reply failed, and that was the last one sent. -/
def StopsShort (plan : List (String × Kind)) (sent : List Sending) (failure : Failure) : Prop :=
  ∃ before command kind behind earlier last, plan = before ++ (command, kind) :: behind ∧ sent = earlier ++ [last] ∧
    Fulfilled before earlier ∧ last.command = command ∧ last.failureFor? kind = some failure

/-- What becomes of a plan, command by command. -/
inductive Carried : List (String × Kind) → List Sending → Option Failure → Prop where
  | done : Carried [] [] none
  | next {command kind rest sending more failure?} (succeeds : Sending.Succeeds sending command kind)
      (carried : Carried rest more failure?) : Carried ((command, kind) :: rest) (sending :: more) failure?
  | stops {command kind rest sending failure} (sent : Sending.command sending = command)
      (failed : sending.failureFor? kind = some failure) : Carried ((command, kind) :: rest) [sending] (some failure)

theorem failureFor?_of_succeeds {sending : Sending} {command : String} {kind : Kind}
    (succeeds : sending.Succeeds command kind) : sending.failureFor? kind = none := by
  obtain ⟨response, found, placed⟩ := Option.map_eq_some_iff.mp succeeds.response
  rw [Sending.failureFor?, succeeds.clean, found]
  exact if_pos placed

theorem Carried.of_fulfilled {plan : List (String × Kind)} {sent : List Sending} (fulfilled : Fulfilled plan sent) :
    Carried plan sent none := by
  induction fulfilled with
  | nil => exact .done
  | cons succeeds _ ih => exact .next succeeds ih

theorem Carried.of_stopsShort {plan : List (String × Kind)} {sent : List Sending} {failure : Failure}
    (short : StopsShort plan sent failure) : Carried plan sent (some failure) := by
  obtain ⟨before, command, kind, behind, earlier, last, rfl, rfl, fulfilled, own, failed⟩ := short
  induction fulfilled with
  | nil => exact .stops own failed
  | cons succeeds _ ih => exact .next succeeds ih

theorem Carried.fulfilled {plan : List (String × Kind)} {sent : List Sending} (carried : Carried plan sent none) :
    Fulfilled plan sent := by
  generalize ended : (none : Option Failure) = failure? at carried
  induction carried with
  | done => exact .nil
  | next succeeds _ ih => exact .cons succeeds (ih ended)
  | stops => cases ended

theorem Carried.stopsShort {plan : List (String × Kind)} {sent : List Sending} {failure : Failure}
    (carried : Carried plan sent (some failure)) : StopsShort plan sent failure := by
  generalize ended : some failure = failure? at carried
  induction carried with
  | done => cases ended
  | @next command kind rest sending more _ succeeds _ ih =>
    obtain ⟨before, last, due, behind, earlier, stopped, rfl, rfl, fulfilled, failed⟩ := ih ended
    exact ⟨(command, kind) :: before, last, due, behind, sending :: earlier, stopped, rfl, rfl, .cons succeeds fulfilled,
      failed⟩
  | @stops command kind rest sending _ own failed =>
    cases ended
    exact ⟨[], command, kind, rest, [], sending, rfl, rfl, .nil, own, failed⟩

theorem Carried.unique {plan : List (String × Kind)} {sent : List Sending} {first second : Option Failure}
    (one : Carried plan sent first) (other : Carried plan sent second) : first = second := by
  induction one with
  | done =>
    cases other
    rfl
  | next succeeds carried ih =>
    cases other with
    | next _ further => exact ih further
    | stops _ failed => exact absurd ((failureFor?_of_succeeds succeeds).symm.trans failed) nofun
  | stops _ failed =>
    cases other with
    | next succeeds => exact absurd ((failureFor?_of_succeeds succeeds).symm.trans failed) nofun
    | stops _ same => exact failed.symm.trans same

variable [Interpreter σ]

theorem runAll_carried (plan : List (String × Kind)) (channel : Channel σ) :
    let ran := (runAll plan).runOver channel
    ∃ sent, ran.2.sendings = channel.sendings ++ sent ∧ Carried plan sent (failure? ran.1) := by
  induction plan generalizing channel with
  | nil => exact ⟨[], (List.append_nil _).symm, .done⟩
  | cons entry rest ih =>
    obtain ⟨command, kind⟩ := entry
    rw [runAll, Talk.runOver_bind]
    rcases asked : (Talk.expecting command [kind]).runOver channel with ⟨failure | response, later⟩
    · obtain ⟨grown, failed⟩ := Talk.fails_expecting asked
      exact ⟨_, grown, .stops rfl failed⟩
    · obtain ⟨grown, _, succeeds, placed⟩ := Talk.succeeds_expecting asked
      rw [List.mem_singleton.mp placed] at succeeds
      obtain ⟨more, further, carried⟩ := ih later
      refine ⟨channel.sending command :: more, ?_, .next succeeds carried⟩
      dsimp only at further ⊢
      rw [further, grown, List.append_assoc, List.singleton_append]

/-- The four commands for every name of a listing that is not the debugger's own, in the order of the listing. -/
def hookPlan (listing : String) : List (String × Kind) :=
  ((Symbol.listed listing).filter fun name => ¬ ".rdbg_".toList <+: name.toList).flatMap fun name =>
    let function := Symbol.quoted name
    let enter := Symbol.quoted (".rdbg_" ++ name ++ "_enter")
    let exit := Symbol.quoted (".rdbg_" ++ name ++ "_exit")
    let echo := " <- function() \x7b print(\"" ++ String.ofList (Literal.guardMarks name.toList) ++ "\") \x7d"
    [(enter ++ echo, .quiet), (exit ++ echo, .quiet), ("trace(" ++ function ++ ", " ++ enter ++ ", exit = " ++ exit ++ ")",
      .printed), ("debug(" ++ function ++ ")", .quiet)]

/-- The listing, and what it leads to. -/
def fullPlan (listing : Sending) : List (String × Kind) :=
  ("Filter(function(x) is.function(get(x)), ls())", .printed) ::
    listing.response?.elim [] fun response => hookPlan response.output

theorem isService_iff {name : String} : isService name = true ↔ ".rdbg_".toList <+: name.toList :=
  List.isPrefixOf_iff_prefix

theorem hookPlan_eq (listing : String) : hookPlan listing = (targets listing).flatMap commands := by
  have kept : targets listing = (Symbol.listed listing).filter fun name => ¬ ".rdbg_".toList <+: name.toList := by
    refine List.filter_congr fun name _ => ?_
    rw [Bool.eq_iff_iff, Bool.not_eq_true', ← Bool.not_eq_true, isService_iff, decide_eq_true_iff]
  rw [hookPlan, kept]
  congr 1
  funext name
  simp only [commands, defineHook, hookName, Hook.ending, serviceStart, escapeLiteral_eq_passes, String.append_assoc]

theorem loadFunctions_carried (channel : Channel σ) :
    let listing := channel.sending listFunctions
    let ran := (loadFunctions : Talk σ Unit).runOver channel
    ∃ hooks, ran.2.sendings = channel.sendings ++ listing :: hooks ∧
      Carried (fullPlan listing) (listing :: hooks) (failure? ran.1) := by
  rw [loadFunctions, Talk.runOver_bind]
  rcases asked : (Talk.expecting listFunctions [.printed]).runOver channel with ⟨failure | response, later⟩
  · obtain ⟨grown, failed⟩ := Talk.fails_expecting asked
    exact ⟨[], grown, .stops rfl failed⟩
  · obtain ⟨grown, found, succeeds, placed⟩ := Talk.succeeds_expecting asked
    rw [List.mem_singleton.mp placed] at succeeds
    obtain ⟨hooks, further, carried⟩ := runAll_carried ((targets response.output).flatMap commands) later
    refine ⟨hooks, ?_, .next succeeds ?_⟩
    · dsimp only at further ⊢
      rw [further, grown, List.append_assoc, List.singleton_append]
    · rw [found, Option.elim_some, hookPlan_eq]
      exact carried

theorem Hook.ending_getLast? (hook : Hook) : hook.ending.toList.getLast? = some (if hook = .enter then 'r' else 't') := by
  cases hook <;> decide

theorem hookName_inj {name other : String} {hook another : Hook} :
    hookName name hook = hookName other another ↔ name = other ∧ hook = another := by
  refine ⟨fun same => ?_, fun ⟨names, hooks⟩ => names ▸ hooks ▸ rfl⟩
  -- The endings differ in their last character, so a function's name that itself ends like a hook's does no harm.
  have hooks : hook = another := by
    have last := congrArg (fun text => text.toList.getLast?) same
    simp only [hookName, String.toList_append, List.getLast?_append, Hook.ending_getLast?, Option.some_or] at last
    cases hook <;> cases another <;> simp_all
  subst hooks
  refine ⟨?_, rfl⟩
  simpa [hookName, ← String.toList_inj] using same

theorem isService_hookName (name : String) (hook : Hook) : isService (hookName name hook) = true := by
  rw [isService_iff, hookName, String.append_assoc, String.toList_append]
  exact List.prefix_append ..

/-- Functions are found and hooked up by a plan that the reply to the listing command makes: it is fulfilled, and the whole
goes well, or what is sent stops short of it at the first reply that fails, and the whole fails with that. No two hooks
share a name or a symbol, and none is hooked up, whatever is listed. -/
theorem functions_hooked_up (channel : Channel σ) :
    let listing := channel.sending listFunctions
    let plan := fullPlan listing
    let ran := (loadFunctions : Talk σ Unit).runOver channel
    (∃ hooks, ran.2.sendings = channel.sendings ++ listing :: hooks ∧
      (ran.1 = .ok () ↔ Fulfilled plan (listing :: hooks)) ∧
      ∀ failure, ran.1 = .error failure ↔ StopsShort plan (listing :: hooks) failure) ∧
    (∀ name other hook another, (hookName name hook = hookName other another ↔ name = other ∧ hook = another) ∧
      (Symbol.quoted (hookName name hook) = Symbol.quoted (hookName other another) ↔ name = other ∧ hook = another)) ∧
    ∀ name hook, ".rdbg_".toList <+: (hookName name hook).toList ∧ ∀ listing, hookName name hook ∉ targets listing := by
  intro listing plan ran
  refine ⟨?_, fun name other hook another => ⟨hookName_inj, ?_⟩, fun name hook => ⟨?_, fun listing target => ?_⟩⟩
  · obtain ⟨hooks, grown, carried⟩ := loadFunctions_carried channel
    refine ⟨hooks, grown, ?_, fun failure => ?_⟩
    · rw [← failure?_eq_none_iff]
      exact ⟨fun none => Carried.fulfilled (none ▸ carried), fun fulfilled => carried.unique (.of_fulfilled fulfilled)⟩
    · rw [← failure?_eq_some_iff]
      exact ⟨fun some => Carried.stopsShort (some ▸ carried), fun short => carried.unique (.of_stopsShort short)⟩
  · rw [Symbol.quoted_injective.eq_iff, hookName_inj]
  · exact isService_iff.mp (isService_hookName name hook)
  · have foreign := (List.mem_filter.mp target).2
    rw [isService_hookName] at foreign
    cases foreign

end Instrument
end RStepper
