import RStepper.Proofs.Announcements
import RStepper.Proofs.HookPlan

/-! How variables are shown. All names of the frame are listed, then those of functions, and each name is printed. A variable
is shown with what was printed, or with the error that was reported in its place. Of what is printed of a function the first
two lines and the last one are left out, which announce that it is traced. They are left out by their number alone: of a
function that is not traced they are its own. -/

namespace RStepper
open Text
variable {σ : Type}

namespace Text

/-- A text has at most one line more than it has breaks. -/
theorem length_segments_le (text : List Char) : (segments text).length ≤ text.count '\n' + 1 := by
  induction text with
  | nil => simp [segments]
  | cons c rest ih =>
    rw [segments]
    split
    next lf => simpa [lf] using ih
    next other =>
      have same : (c :: rest).count '\n' = rest.count '\n' := List.count_cons_of_ne other
      rw [same]
      split
      · simp
      next piece more pieces =>
        rw [pieces] at ih
        simpa using ih

theorem count_joinLines {body : List Line} (free : ∀ line ∈ body, '\n' ∉ line) :
    (joinLines body).count '\n' = body.length - 1 := by
  induction body with
  | nil => rfl
  | cons line more ih =>
    have own := List.count_eq_zero.mpr (free line List.mem_cons_self)
    have rest := ih fun other inside => free other (List.mem_cons_of_mem _ inside)
    cases more with
    | nil => simpa using own
    | cons next more => simp [joinLines_cons_cons, own, rest]

theorem trimEnd_sublist (text : List Char) : (trimEnd text).Sublist text := by
  have kept := (List.dropWhile_sublist isBlank (l := text.reverse)).reverse
  rwa [List.reverse_reverse] at kept

end Text

namespace Inspect

/-- What the console prints of a traced function with this definition: two lines in front of it, and a hint behind it. -/
inductive ShowsTraced (definition : List Line) : String → Prop where
  | announced {object original hint : Line}
      (free : ∀ line ∈ object :: original :: (definition ++ [hint]), BreakFree line)
      (traced : "Object with tracing code".toList <+: object) (defined : "Original definition:".toList <+: original)
      (points : "## (to see the tracing code".toList <+: hint) :
      ShowsTraced definition (String.ofList (joinLines (object :: original :: (definition ++ [hint]))))

/-- Three lines are left out, whatever they say. -/
theorem functionValue_joinLines {first second last : Line} {inner : List Line}
    (free : ∀ line ∈ first :: second :: (inner ++ [last]), BreakFree line) (solid : last ≠ []) :
    functionValue (String.ofList (joinLines (first :: second :: (inner ++ [last])))) =
      String.ofList (trimEnd (joinLines inner)) := by
  have read : lines (joinLines (first :: second :: (inner ++ [last]))) = first :: second :: (inner ++ [last]) := by
    have ending : (first :: second :: (inner ++ [last])).getLast? = some last := by
      rw [← List.cons_append, ← List.cons_append, List.getLast?_concat]
    rw [lines_joinLines free, ending, if_neg fun same => solid (Option.some.inj same)]
  rw [functionValue, String.toList_ofList, read, if_neg (by simp)]
  simp

theorem functionValue_of_traced {definition : List Line} {printed : String} (shows : ShowsTraced definition printed) :
    functionValue printed = String.ofList (trimEnd (joinLines definition)) := by
  obtain @⟨object, original, hint, free, _, _, points⟩ := shows
  refine functionValue_joinLines free ?_
  rintro rfl
  exact absurd (List.prefix_nil.mp points) (by decide)

theorem ShowsTraced.opens {definition : List Line} {printed : String} (shows : ShowsTraced definition printed) :
    "Object with tracing code".toList <+: printed.toList := by
  obtain @⟨object, original, hint, _, traced, _, _⟩ := shows
  refine traced.trans ?_
  rw [String.toList_ofList, joinLines_cons_cons]
  exact List.prefix_append _ _

theorem functionValue_eq_self_iff (printed : String) :
    functionValue printed = printed ↔ (lines printed.toList).length < 3 := by
  refine ⟨fun same => ?_, fun few => if_pos few⟩
  by_contra! many
  have inner : ∀ line ∈ ((lines printed.toList).drop 2).dropLast, '\n' ∉ line := fun line inside =>
    lf_not_mem_lines (List.mem_of_mem_drop (List.dropLast_subset _ inside))
  have value : printed.toList = trimEnd (joinLines ((lines printed.toList).drop 2).dropLast) := by
    rw [functionValue, if_neg (Nat.not_lt.mpr many)] at same
    have texts := congrArg String.toList same
    rw [String.toList_ofList] at texts
    exact texts.symm
  -- The lines that are left out take their breaks with them.
  have breaks : printed.toList.count '\n' ≤ (lines printed.toList).length - 3 - 1 := by
    have fewer := (trimEnd_sublist (joinLines ((lines printed.toList).drop 2).dropLast)).count_le '\n'
    rw [← value, count_joinLines inner] at fewer
    simpa [Nat.sub_sub] using fewer
  have all : (lines printed.toList).length ≤ printed.toList.count '\n' + 1 := by
    rw [lines, List.length_map]
    exact length_segments_le _
  omega

/-- What a listed name is shown as when this was the answer to printing it. -/
inductive Shows (functions : List String) (name : String) (print : Sending) : Variable → Prop where
  | printed {response} (clean : print.fault? = none) (answered : print.response? = some response)
      (kind : response.kind = .printed) :
      Shows functions name print
        ⟨name, if name ∈ functions then functionValue response.output else response.output, decide (name ∈ functions)⟩
  | reported {command report raw} (fault : print.fault? = some (.runtime command report raw)) :
      Shows functions name print ⟨name, report, decide (name ∈ functions)⟩

/-- The names are printed one by one, up to the first answer that ends the session. -/
inductive Survey (functions : List String) : List String → List Sending → Except Failure (List Variable) → Prop where
  | done : Survey functions [] [] (.ok [])
  | next {name names print prints shown outcome} (command : Sending.command print = Symbol.quoted name)
      (shows : Shows functions name print shown) (rest : Survey functions names prints outcome) :
      Survey functions (name :: names) (print :: prints) (outcome.map (shown :: ·))
  | fails {name names print failure} (command : Sending.command print = Symbol.quoted name)
      (failed : print.failureFor? .printed = some failure) (fatal : failure.isFatal = true) :
      Survey functions (name :: names) [print] (.error failure)

/-- What comes of listing the variables, by what was sent and answered. -/
inductive Told : List Sending → Except Failure (List Variable) → Prop where
  | unlisted {listing failure} (command : Sending.command listing = "ls()")
      (failed : listing.failureFor? .printed = some failure) : Told [listing] (.error failure)
  | unmarked {listing marking failure} (listed : Sending.Succeeds listing "ls()" .printed)
      (command : Sending.command marking = "Filter(function(x) is.function(get(x)), ls())")
      (failed : marking.failureFor? .printed = some failure) : Told [listing, marking] (.error failure)
  | surveyed {listing marking prints names functions outcome} (listed : Sending.Succeeds listing "ls()" .printed)
      (marked : Sending.Succeeds marking "Filter(function(x) is.function(get(x)), ls())" .printed)
      (found : listing.response? = some names) (told : marking.response? = some functions)
      (survey : Survey (Symbol.listed functions.output) (Symbol.listed names.output) prints outcome) :
      Told (listing :: marking :: prints) outcome

theorem fault?_of_runtime {sending : Sending} {kind : Kind} {command report raw : String}
    (failed : sending.failureFor? kind = some (.runtime command report raw)) :
    sending.fault? = some (.runtime command report raw) := by
  unfold Sending.failureFor? at failed
  split at failed
  next fault => exact fault.trans failed
  next =>
    split at failed <;> cases failed
  next => cases failed

theorem Shows.unique {functions : List String} {name : String} {print : Sending} {shown other : Variable}
    (shows : Shows functions name print shown) (again : Shows functions name print other) : shown = other := by
  cases shows with
  | printed clean answered _ => cases again with
    | printed _ answeredAgain _ => cases answered.symm.trans answeredAgain; rfl
    | reported fault => cases clean.symm.trans fault
  | reported fault => cases again with
    | printed clean _ _ => cases clean.symm.trans fault
    | reported faultAgain => cases fault.symm.trans faultAgain; rfl

theorem Shows.not_fatal {functions : List String} {name : String} {print : Sending} {shown : Variable} {failure : Failure}
    (shows : Shows functions name print shown) (failed : print.failureFor? .printed = some failure) :
    failure.isFatal = false := by
  cases shows with
  | printed clean answered kind =>
    have succeeds : print.Succeeds print.command .printed := ⟨rfl, clean, by rw [answered, Option.map_some, kind]⟩
    cases (Instrument.failureFor?_of_succeeds succeeds).symm.trans failed
  | reported fault =>
    rw [Sending.failureFor?, fault] at failed
    cases failed
    rfl

theorem Survey.unique {functions names : List String} {prints : List Sending} {outcome other : Except Failure (List Variable)}
    (survey : Survey functions names prints outcome) (again : Survey functions names prints other) : outcome = other := by
  induction survey generalizing other with
  | done => cases again; rfl
  | next _ shows _ ih => cases again with
    | next _ showsAgain rest => rw [shows.unique showsAgain, ih rest]
    | fails _ failed fatal => exact absurd (shows.not_fatal failed) (by simp [fatal])
  | fails _ failed fatal => cases again with
    | next _ shows _ => exact absurd (shows.not_fatal failed) (by simp [fatal])
    | fails _ failedAgain _ => cases failed.symm.trans failedAgain; rfl

theorem Told.unique {sent : List Sending} {outcome other : Except Failure (List Variable)} (told : Told sent outcome)
    (again : Told sent other) : outcome = other := by
  have apart {sending : Sending} {command : String} {failure : Failure} (succeeds : sending.Succeeds command .printed)
      (failed : sending.failureFor? .printed = some failure) : False := by
    cases (Instrument.failureFor?_of_succeeds succeeds).symm.trans failed
  cases told with
  | unlisted _ failed => cases again with
    | unlisted _ failedAgain => cases failed.symm.trans failedAgain; rfl
  | unmarked listed _ failed => cases again with
    | unmarked _ _ failedAgain => cases failed.symm.trans failedAgain; rfl
    | surveyed _ marked _ _ _ => exact (apart marked failed).elim
  | surveyed _ marked found told survey => cases again with
    | unmarked _ _ failed => exact (apart marked failed).elim
    | surveyed _ _ foundAgain toldAgain surveyAgain =>
      cases found.symm.trans foundAgain
      cases told.symm.trans toldAgain
      exact survey.unique surveyAgain

variable [Interpreter σ]

theorem runOver_valueOf (name : String) (isFunction : Bool) (channel : Channel σ) :
    (valueOf name isFunction).runOver channel =
      match (Talk.expecting (Symbol.quoted name) [.printed]).runOver channel with
      | (.ok response, later) => (.ok (if isFunction then functionValue response.output else response.output), later)
      | (.error (.runtime _ report _), later) => (.ok report, later)
      | (.error failure, later) => (.error failure, later) := by
  rw [valueOf, Talk.runOver_tryCatch, Talk.runOver_bind]
  rcases (Talk.expecting (Symbol.quoted name) [.printed]).runOver channel with ⟨failure | response, later⟩
  · cases failure <;> rfl
  · rfl

theorem valueOf_cases (functions : List String) (name : String) (channel : Channel σ) :
    let print := channel.sending (Symbol.quoted name)
    let ran := (valueOf name (decide (name ∈ functions))).runOver channel
    ran.2.sendings = channel.sendings ++ [print] ∧
      ((∃ value, Shows functions name print ⟨name, value, decide (name ∈ functions)⟩ ∧ ran.1 = .ok value) ∨
        ∃ failure, print.failureFor? .printed = some failure ∧ failure.isFatal = true ∧ ran.1 = .error failure) := by
  intro print ran
  have told : ran = _ := runOver_valueOf name (decide (name ∈ functions)) channel
  rcases asked : (Talk.expecting (Symbol.quoted name) [.printed]).runOver channel with ⟨failure | response, later⟩
  · obtain ⟨sent, failed⟩ := Talk.fails_expecting asked
    rw [asked] at told
    cases failure with
    | runtime command report raw => exact told ▸ ⟨sent, .inl ⟨report, .reported (fault?_of_runtime failed), rfl⟩⟩
    | incomplete | unexpected | channel | settings | stream => exact told ▸ ⟨sent, .inr ⟨_, failed, rfl, rfl⟩⟩
  · obtain ⟨sent, answered, succeeds, placed⟩ := Talk.succeeds_expecting asked
    rw [asked] at told
    have kind : response.kind = .printed := List.mem_singleton.mp placed
    have shows := @Shows.printed functions name _ _ succeeds.clean answered kind
    exact told ▸ ⟨sent, .inl ⟨_, shows, by simp⟩⟩

theorem runOver_variablesOf_cons (functions names : List String) (name : String) (channel : Channel σ) :
    (variablesOf functions (name :: names)).runOver channel =
      match (valueOf name (decide (name ∈ functions))).runOver channel with
      | (.ok value, later) =>
        let others := (variablesOf functions names).runOver later
        (others.1.map (⟨name, value, decide (name ∈ functions)⟩ :: ·), others.2)
      | (.error failure, later) => (.error failure, later) := by
  rw [variablesOf]
  dsimp only
  rw [Talk.runOver_bind]
  rcases (valueOf name (decide (name ∈ functions))).runOver channel with ⟨failure | value, later⟩
  · rfl
  · dsimp only
    rw [Talk.runOver_bind]
    rcases (variablesOf functions names).runOver later with ⟨failure | others, last⟩ <;> rfl

theorem variablesOf_survey (functions names : List String) (channel : Channel σ) :
    ∃ prints, ((variablesOf functions names).runOver channel).2.sendings = channel.sendings ++ prints ∧
      Survey functions names prints ((variablesOf functions names).runOver channel).1 := by
  induction names generalizing channel with
  | nil => exact ⟨[], (List.append_nil _).symm, .done⟩
  | cons name names ih =>
    obtain ⟨sent, seen⟩ := valueOf_cases functions name channel
    rw [runOver_variablesOf_cons]
    rcases valued : (valueOf name (decide (name ∈ functions))).runOver channel with ⟨outcome, later⟩
    rw [valued] at sent seen
    obtain ⟨value, shows, same⟩ | ⟨failure, failed, fatal, same⟩ := seen <;> cases same
    · obtain ⟨prints, further, survey⟩ := ih later
      refine ⟨channel.sending (Symbol.quoted name) :: prints, ?_, .next rfl shows survey⟩
      calc
        _ = later.sendings ++ prints := further
        _ = channel.sendings ++ channel.sending (Symbol.quoted name) :: prints := by
          rw [sent, List.append_assoc]
          rfl
    · exact ⟨_, sent, .fails rfl failed fatal⟩

theorem visible_told (channel : Channel σ) :
    ∃ sent, ((visible : Talk σ (List Variable)).runOver channel).2.sendings = channel.sendings ++ sent ∧
      Told sent ((visible : Talk σ (List Variable)).runOver channel).1 := by
  rw [visible, Talk.runOver_bind]
  rcases listed : (Talk.expecting listNames [.printed]).runOver channel with ⟨failure | names, listing⟩
  · obtain ⟨sent, failed⟩ := Talk.fails_expecting listed
    exact ⟨_, sent, .unlisted rfl failed⟩
  obtain ⟨sent, found, succeeds, placed⟩ := Talk.succeeds_expecting listed
  rw [List.mem_singleton.mp placed] at succeeds
  dsimp only
  rw [Talk.runOver_bind]
  rcases marked : (Talk.expecting Instrument.listFunctions [.printed]).runOver listing with ⟨failure | functions, marking⟩
  · obtain ⟨sentNext, failed⟩ := Talk.fails_expecting marked
    rw [sent, List.append_assoc] at sentNext
    exact ⟨_, sentNext, .unmarked succeeds rfl failed⟩
  · obtain ⟨sentNext, foundNext, succeedsNext, placedNext⟩ := Talk.succeeds_expecting marked
    rw [List.mem_singleton.mp placedNext] at succeedsNext
    obtain ⟨prints, further, survey⟩ :=
      variablesOf_survey (Symbol.listed functions.output) (Symbol.listed names.output) marking
    rw [sentNext, sent, List.append_assoc, List.append_assoc] at further
    exact ⟨_, further, .surveyed succeeds succeedsNext found foundNext survey⟩

/-- The variables are what was told of them, and nothing else. A traced function is shown by its definition. What was
printed of a function is shown as it is only if it has less than three lines, traced or not. -/
theorem variables_shown (channel : Channel σ) :
    let ran := (visible : Talk σ (List Variable)).runOver channel
    (∃ sent, ran.2.sendings = channel.sendings ++ sent ∧ ∀ outcome, ran.1 = outcome ↔ Told sent outcome) ∧
      ∀ printed : String,
        (∀ definition, ShowsTraced definition printed →
          functionValue printed = String.ofList (trimEnd (joinLines definition))) ∧
        (functionValue printed = printed ↔ (lines printed.toList).length < 3) := by
  intro ran
  obtain ⟨sent, sendings, told⟩ := visible_told channel
  refine ⟨⟨sent, sendings, fun outcome => ⟨fun same => same ▸ told, told.unique⟩⟩, fun printed => ?_⟩
  exact ⟨fun _ => functionValue_of_traced, functionValue_eq_self_iff printed⟩

/-- The answers to listing the function `f`, which prints like this. -/
def listsFunction (printed : String) : Scripted where
  rules := [
    ⟨"ls()", .said "[1] \"f\"\nBrowse[1]> " ""⟩,
    ⟨"Filter(", .said "[1] \"f\"\nBrowse[1]> " ""⟩]
  replies := [.said (printed ++ "\nBrowse[1]> ") ""]
  ruledSteps := 0

def ownLines : List Line :=
  ["function(x) x".toList, []]

/-- What `f` prints when it is traced. -/
def tracedPrint : String :=
  String.ofList (joinLines ("Object with tracing code".toList :: "Original definition: ".toList ::
    (ownLines ++ ["## (to see the tracing code)".toList])))

theorem tracedPrint_shown :
    let ran := (visible : Talk Scripted (List Variable)).runOver (.fresh (listsFunction tracedPrint))
    ShowsTraced ownLines tracedPrint ∧ functionValue tracedPrint = String.ofList (trimEnd (joinLines ownLines)) ∧
      ran.1.toOption = some [⟨"f", "function(x) x", true⟩] := by
  intro ran
  have shows : ShowsTraced ownLines tracedPrint := .announced (by decide +kernel) (by decide) (by decide) (by decide)
  have values := (variables_shown (.fresh (listsFunction tracedPrint))).2 tracedPrint
  exact ⟨shows, values.1 ownLines shows, by decide +kernel⟩

/-- What `f` prints when it is not traced. -/
def untracedPrint : String :=
  "function(x) \x7b\n  y <- x + 1\n  y\n\x7d"

/-- A function that is not traced loses its own lines. -/
theorem untracedPrint_cut :
    let ran := (visible : Talk Scripted (List Variable)).runOver (.fresh (listsFunction untracedPrint))
    (¬ ∃ definition, ShowsTraced definition untracedPrint) ∧
      ran.2.sendings.map Sending.command = [listNames, Instrument.listFunctions, "f"] ∧
      (ran.2.sendings.getLast?.bind Sending.response?).map Response.output = some untracedPrint ∧
      ran.1.toOption = some [⟨"f", "  y", true⟩] := by
  refine ⟨fun ⟨_, shows⟩ => absurd shows.opens (by decide +kernel), ?_, ?_, ?_⟩ <;> decide +kernel

end Inspect
end RStepper
