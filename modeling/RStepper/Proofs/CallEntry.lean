import RStepper.Interpreter.Scripted
import RStepper.Proofs.Announcements

/-! A call is entered. From the step that announced it, over the tracing wrapper, the entry hook and the heads of loops, the
debugger comes to the first statement and hooks up the functions in sight. Whatever interpreter answers as expected, the
frame stands there, and nothing but the expected commands was sent. -/

namespace RStepper
open Text
variable {σ α β : Type}

/-- A command, what is said to it, and the response that this makes. -/
structure Exchange where
  command : String
  body : String
  response : Response
  classified : Response.classify (command ++ "\n" ++ body) = some response

namespace Exchange

def of (command body : String) (complete : (Response.classify (command ++ "\n" ++ body)).isSome) : Exchange :=
  ⟨command, body, (Response.classify (command ++ "\n" ++ body)).get complete, (Option.some_get complete).symm⟩

/-- A step that ended in a pause, at the line that its first announcement of the current line shows. -/
structure PausesAt (exchange : Exchange) (mark : Line) : Prop where
  command : exchange.command = stepCommand
  kind : exchange.response.kind = .paused
  first : (lines exchange.response.text.toList).find? Marker.isCurrentLine = some mark

/-- A step inside the tracing wrapper: it printed something, or paused without a line number. -/
def Wraps (exchange : Exchange) : Prop :=
  exchange.command = stepCommand ∧ exchange.response.kind = .printed ∨
    ∃ mark, exchange.PausesAt mark ∧ startsWith Marker.unnumberedMark mark = true

theorem Wraps.command {exchange : Exchange} (wraps : exchange.Wraps) : exchange.command = stepCommand := by
  rcases wraps with ⟨command, _⟩ | ⟨_, pauses, _⟩
  · exact command
  · exact pauses.command

theorem Wraps.isWrapperStep {exchange : Exchange} (wraps : exchange.Wraps) :
    BodyShape.ofTrace? exchange.response.kind = none ∧ Entry.isWrapperStep exchange.response = true := by
  rcases wraps with ⟨_, printed⟩ | ⟨mark, pauses, unnumbered⟩
  · simp [Entry.isWrapperStep, BodyShape.ofTrace?, printed]
  · have found : (lines exchange.response.text.toList).find? Marker.isCurrentLine = some mark := pauses.first
    simp [Entry.isWrapperStep, BodyShape.ofTrace?, pauses.kind, found, Marker.isUnnumbered, unnumbered]

theorem PausesAt.announced {exchange : Exchange} {mark : Line} (pauses : exchange.PausesAt mark) :
    ∃ more, (∀ line ∈ mark :: more, BreakFree line) ∧
      CallFrame.announcedBy exchange.response = some (joinLines (mark :: more)) :=
  Response.announcedBy_of_paused exchange.classified pauses.kind pauses.first

theorem PausesAt.announcesLoop {exchange : Exchange} {mark : Line} (pauses : exchange.PausesAt mark) :
    (CallFrame.announcedBy exchange.response).any Position.isLoopHeader = Position.isLoopHeader mark := by
  obtain ⟨more, free, announced⟩ := pauses.announced
  have solid : mark ≠ [] := Marker.ne_nil_of_isCurrentLine (List.find?_some pauses.first)
  rw [announced, Option.any_some, Position.isLoopHeader_joinLines free solid]

/-- A step that ended at the head of a loop with a braced body. -/
def AtLoop (exchange : Exchange) : Prop :=
  ∃ mark, exchange.PausesAt mark ∧ Position.isLoopHeader mark = true

/-- A step that ended at a line with a number, which is no head of a loop. -/
inductive StopsAt (exchange : Exchange) : Nat → Prop where
  | numbered {mark : String} {digits statement : List Char}
      (marked : mark = Marker.sourceLineMark ∨ mark = Marker.plainLineMark) (some : digits ≠ [])
      (decimal : digits.all Char.isDigit = true) (small : digitsValue digits ≤ 2147483647)
      (pauses : exchange.PausesAt (mark.toList ++ (digits ++ (": ".toList ++ statement))))
      (plain : Position.isLoopHeader (mark.toList ++ (digits ++ (": ".toList ++ statement))) = false) :
      StopsAt exchange (digitsValue digits)

theorem StopsAt.pauses {exchange : Exchange} {number : Nat} (stops : exchange.StopsAt number) :
    ∃ mark, exchange.PausesAt mark ∧ Position.isLoopHeader mark = false := by
  obtain ⟨_, _, _, _, pauses, plain⟩ := stops
  exact ⟨_, pauses, plain⟩

theorem StopsAt.lineNumber {exchange : Exchange} {number : Nat} (stops : exchange.StopsAt number) :
    (CallFrame.announcedBy exchange.response).bind Position.lineNumber? = some (number : Int) := by
  obtain @⟨mark, digits, statement, marked, some, decimal, small, pauses, _⟩ := stops
  obtain ⟨more, _, announced⟩ := pauses.announced
  obtain ⟨behind, whole⟩ := joinLines_cons (mark.toList ++ (digits ++ (": ".toList ++ statement))) more
  have split : mark.toList ++ (digits ++ (": ".toList ++ statement)) ++ behind =
      mark.toList ++ (digits ++ (": ".toList ++ statement ++ behind)) := by simp only [List.append_assoc]
  rw [announced, Option.bind_some, whole, split]
  exact Position.lineNumber?_numbered marked some decimal small rfl

end Exchange

/-- What became of the channel: some commands were sent, some texts were written as output of the program, and the
interpreter is in this state. -/
structure Channel.Conducts (before : Channel σ) (commands outputs : List String) (state : σ) (after : Channel σ) : Prop where
  interpreter : after.interpreter = state
  sent : after.sent = before.sent ++ commands
  records : after.records = before.records ++ (outputs.filter (· ≠ "")).map (⟨·, false⟩)

namespace Channel

theorem Conducts.refl (channel : Channel σ) : channel.Conducts [] [] channel.interpreter channel :=
  ⟨rfl, (List.append_nil _).symm, (List.append_nil _).symm⟩

theorem Conducts.trans {first middle last : Channel σ} {commands further outputs more : List String} {begun ended : σ}
    (before : first.Conducts commands outputs begun middle) (after : middle.Conducts further more ended last) :
    first.Conducts (commands ++ further) (outputs ++ more) ended last where
  interpreter := after.interpreter
  sent := by rw [after.sent, before.sent, List.append_assoc]
  records := by rw [after.records, before.records, List.filter_append, List.map_append, List.append_assoc]

theorem conducts_write (channel : Channel σ) (output : String) :
    channel.Conducts [] [output] channel.interpreter (channel.write ⟨output, false⟩) := by
  unfold write
  split
  next empty => exact ⟨rfl, by simp, by simp [show output = "" from empty]⟩
  next filled =>
    have filled : output ≠ "" := filled
    exact ⟨rfl, by simp [sent, Happening.command?], by simp [records, Happening.record?, filled]⟩

end Channel

namespace Talk

/-- The conversation succeeds with a value, and this becomes of the channel. -/
def Conducts (talk : Talk σ α) (channel : Channel σ) (value : α) (commands outputs : List String) (state : σ) : Prop :=
  ∃ later, talk.runOver channel = (.ok value, later) ∧ channel.Conducts commands outputs state later

theorem Conducts.bind {talk : Talk σ α} {next : α → Talk σ β} {channel : Channel σ} {first : α} {value : β}
    {commands further outputs more : List String} {middle state : σ}
    (begun : talk.Conducts channel first commands outputs middle)
    (rest : ∀ later : Channel σ, later.interpreter = middle → (next first).Conducts later value further more state) :
    (talk >>= next).Conducts channel value (commands ++ further) (outputs ++ more) state := by
  obtain ⟨later, ran, became⟩ := begun
  obtain ⟨last, done, ended⟩ := rest later became.interpreter
  exact ⟨last, by rw [runOver_bind, ran]; exact done, became.trans ended⟩

theorem conducts_pure (value : α) (channel : Channel σ) :
    (pure value : Talk σ α).Conducts channel value [] [] channel.interpreter :=
  ⟨channel, rfl, .refl channel⟩

end Talk

variable [Interpreter σ]

/-- An interpreter that is good for some exchanges, one behind the other and without diagnostics, and the interpreter
behind them. -/
inductive Plays : σ → List Exchange → σ → Prop where
  | nil {state} : Plays state [] state
  | cons {state next last exchange rest}
      (answers : Interpreter.answer state exchange.command = (.said exchange.body "", next))
      (plays : Plays next rest last) : Plays state (exchange :: rest) last

theorem Plays.split {first second : List Exchange} {state last : σ} (plays : Plays state (first ++ second) last) :
    ∃ middle, Plays state first middle ∧ Plays middle second last := by
  induction first generalizing state with
  | nil => exact ⟨state, .nil, plays⟩
  | cons exchange rest ih =>
    cases plays with
    | cons answers behind =>
      obtain ⟨middle, begun, ended⟩ := ih behind
      exact ⟨middle, .cons answers begun, ended⟩

namespace Talk

theorem conducts_execute {exchange : Exchange} {channel : Channel σ} {next : σ}
    (answers : Interpreter.answer channel.interpreter exchange.command = (.said exchange.body "", next)) :
    (execute exchange.command).Conducts channel exchange.response [exchange.command] [] next := by
  have asked : channel.ask exchange.command =
      (.said exchange.body "", (channel.ask exchange.command).2) := by rw [Channel.ask, answers]
  refine ⟨(channel.ask exchange.command).2, ?_, ?_, ?_, ?_⟩
  · rw [runOver_execute, asked]
    dsimp only [receive]
    rw [exchange.classified]
    rfl
  · simp [Channel.ask, answers]
  · simp [Channel.ask, Channel.sent, Happening.command?]
  · simp [Channel.records_ask]

theorem conducts_expecting {exchange : Exchange} {expected : List Kind} {channel : Channel σ} {next : σ}
    (answers : Interpreter.answer channel.interpreter exchange.command = (.said exchange.body "", next))
    (placed : exchange.response.kind ∈ expected) :
    (expecting exchange.command expected).Conducts channel exchange.response [exchange.command] [] next := by
  refine (conducts_execute answers).bind fun later state => ?_
  rw [if_pos placed, ← state]
  exact conducts_pure exchange.response later

end Talk

namespace Entry

/-- The entry hook is found behind the steps of the wrapper, if there are not too many. -/
theorem conducts_findWithin {steps : Nat} {wrappers : List Exchange} {hook : Exchange} {shape : BodyShape}
    {channel : Channel σ} {state : σ} (few : wrappers.length ≤ steps) (wraps : ∀ wrapper ∈ wrappers, wrapper.Wraps)
    (command : hook.command = stepCommand) (traced : BodyShape.ofTrace? hook.response.kind = some shape)
    (plays : Plays channel.interpreter (wrappers ++ [hook]) state) :
    (findWithin steps).Conducts channel ⟨enteredName hook.response.text, shape, hook.response⟩
      (List.replicate (wrappers.length + 1) stepCommand) [] state := by
  have hooked {channel : Channel σ} (plays : Plays channel.interpreter [hook] state) (otherwise : Response → Talk σ Entry) :
      (step otherwise).Conducts channel ⟨enteredName hook.response.text, shape, hook.response⟩ [stepCommand] [] state := by
    obtain _ | ⟨answers, _ | _⟩ := plays
    refine (command ▸ Talk.conducts_execute answers).bind fun later behind => ?_
    rw [traced, ← behind]
    exact Talk.conducts_pure _ later
  induction wrappers generalizing steps channel with
  | nil => cases steps <;> exact hooked plays _
  | cons wrapper rest ih =>
    obtain ⟨steps, rfl⟩ : ∃ left, steps = left + 1 := Nat.exists_eq_succ_of_ne_zero (by rintro rfl; cases few)
    obtain _ | ⟨answers, behind⟩ := plays
    have first := wraps wrapper List.mem_cons_self
    obtain ⟨untraced, wrapped⟩ := first.isWrapperStep
    refine (first.command ▸ Talk.conducts_execute answers).bind fun later reached => ?_
    rw [untraced]
    dsimp only
    rw [if_pos wrapped]
    exact ih (Nat.le_of_succ_le_succ few) (fun other inside => wraps other (List.mem_cons_of_mem _ inside)) (reached ▸ behind)

theorem enteredName_eq {text : String} {name : String}
    (echoed : (lines text.toList)[1]? = some ("[1] \"".toList ++ (name.toList ++ "\"".toList))) : enteredName text = name := by
  have echo : echoedName? ("[1] \"".toList ++ (name.toList ++ "\"".toList)) = some name.toList := by
    rw [echoedName?, stripStart, List.isPrefixOf?_eq_some_iff_append_eq.mpr rfl, Option.bind_some, stripEnd]
    exact List.isSuffixOf?_eq_some_iff_append_eq.mpr rfl
  rw [enteredName, echoed, Option.bind_some, echo, Option.getD_some, String.ofList_toList]

end Entry

namespace Instrument

theorem conducts_runAll {plan : List (String × Kind)} {hooks : List Exchange} {channel : Channel σ} {state : σ}
    (planned : hooks.map (fun hook => (hook.command, hook.response.kind)) = plan)
    (plays : Plays channel.interpreter hooks state) :
    (runAll plan).Conducts channel () (plan.map Prod.fst) [] state := by
  subst planned
  induction hooks generalizing channel with
  | nil =>
    cases plays
    exact Talk.conducts_pure () channel
  | cons hook rest ih =>
    obtain _ | ⟨answers, behind⟩ := plays
    exact (Talk.conducts_expecting answers (List.mem_singleton.mpr rfl)).bind fun later reached => ih (reached ▸ behind)

/-- A listing of functions, and what hooks up those that are not the debugger's own, in the listing's order. -/
structure HooksUp (listing : Exchange) (hooks : List Exchange) : Prop where
  command : listing.command = listFunctions
  kind : listing.response.kind = .printed
  planned : hooks.map (fun hook => (hook.command, hook.response.kind)) = (targets listing.response.output).flatMap commands

theorem conducts_loadFunctions {listing : Exchange} {hooks : List Exchange} {channel : Channel σ} {state : σ}
    (hooked : HooksUp listing hooks) (plays : Plays channel.interpreter (listing :: hooks) state) :
    loadFunctions.Conducts channel ()
      (listFunctions :: ((targets listing.response.output).flatMap commands).map Prod.fst) [] state := by
  obtain _ | ⟨answers, behind⟩ := plays
  have listed := Talk.conducts_expecting answers (List.mem_singleton.mpr hooked.kind)
  rw [hooked.command] at listed
  rw [← List.singleton_append]
  refine listed.bind fun later reached => ?_
  subst reached
  exact conducts_runAll hooked.planned behind

end Instrument

/-- The pauses in which a body is entered, by the kind of the hook's response, and the line they end at: none in an
expression, and in a block the heads of any number of loops and then the first statement. -/
inductive BodyPauses : Kind → List Exchange → Nat → Prop where
  | expression : BodyPauses .tracedExpression [] 1
  | block {heads : List Exchange} {first : Exchange} {number : Nat} (loops : ∀ head ∈ heads, head.AtLoop)
      (stops : first.StopsAt number) : BodyPauses .tracedBlock (heads ++ [first]) number

theorem BodyPauses.shape {kind : Kind} {pauses : List Exchange} {number : Nat} (body : BodyPauses kind pauses number) :
    ∃ shape, BodyShape.ofTrace? kind = some shape := by
  cases body <;> exact ⟨_, rfl⟩

namespace CallFrame
open Act

/-- A block goes past the heads of its loops to the first statement and writes what was printed on the way. -/
theorem conducts_pause {heads : List Exchange} {first : Exchange} {number : Nat} (loops : ∀ head ∈ heads, head.AtLoop)
    (stops : first.StopsAt number) (name : String) (line : Int) (change : StackChange) {channel : Channel σ} {state : σ}
    (plays : Plays channel.interpreter (heads ++ [first]) state) :
    let pause : Act CallFrame σ Unit := do
      let response ← Act.talk (Talk.expecting stepCommand [.paused])
      pauseAt response
    ∃ later, pause.runOver ⟨⟨.block, name, .paused line⟩, change, channel⟩ =
        (.ok (), ⟨⟨.block, name, .paused number⟩, change, later⟩) ∧
      channel.Conducts (List.replicate (heads ++ [first]).length stepCommand)
        ((heads ++ [first]).map fun pause => pause.response.output) state later := by
  intro pause
  -- One pause, with what is left to do behind it.
  have one {exchange : Exchange} {mark : Line} {channel : Channel σ} {next : σ} (line : Int) (pauses : exchange.PausesAt mark)
      (answers : Interpreter.answer channel.interpreter exchange.command = (.said exchange.body "", next)) :
      ∃ asked, channel.Conducts [stepCommand] [exchange.response.output] next asked ∧
        pause.runOver ⟨⟨.block, name, .paused line⟩, change, channel⟩ =
          (if Position.isLoopHeader mark then pause else pure ()).runOver
            ⟨(⟨.block, name, .paused line⟩ : CallFrame).atLine? ((announcedBy exchange.response).bind Position.lineNumber?),
              change, asked⟩ := by
    obtain ⟨asked, ran, became⟩ := Talk.conducts_expecting answers (List.mem_singleton.mpr pauses.kind)
    have written := became.trans (asked.conducts_write exchange.response.output)
    rw [became.interpreter, pauses.command] at written
    rw [pauses.command] at ran
    refine ⟨_, written, ?_⟩
    simp only [pause, runOver_bind_talk, ran]
    rw [pauseAt_eq, runOver_bind_talk, Talk.runOver_emit]
    dsimp only
    rw [runOver_bind_modifyFrame, pauses.announcesLoop]
  induction heads generalizing channel line with
  | nil =>
    obtain _ | ⟨answers, _ | _⟩ := plays
    obtain ⟨mark, pauses, plain⟩ := stops.pauses
    obtain ⟨asked, became, ran⟩ := one line pauses answers
    refine ⟨asked, ?_, became⟩
    rw [ran, plain, stops.lineNumber]
    rfl
  | cons head rest ih =>
    obtain _ | ⟨answers, behind⟩ := plays
    obtain ⟨mark, pauses, header⟩ := loops head List.mem_cons_self
    obtain ⟨asked, became, ran⟩ := one line pauses answers
    obtain ⟨reached, moved⟩ : ∃ reached : Int, (⟨.block, name, .paused line⟩ : CallFrame).atLine?
        ((announcedBy head.response).bind Position.lineNumber?) = ⟨.block, name, .paused reached⟩ := by
      cases (announcedBy head.response).bind Position.lineNumber? <;> exact ⟨_, rfl⟩
    obtain ⟨later, further, ended⟩ := ih (fun other inside => loops other (List.mem_cons_of_mem _ inside)) reached
      (became.interpreter ▸ behind)
    refine ⟨later, ?_, became.trans ended⟩
    rw [ran, header, if_pos rfl, moved, further]

theorem conducts_enter {kind : Kind} {pauses hooks : List Exchange} {number : Nat} {listing : Exchange} {shape : BodyShape}
    (body : BodyPauses kind pauses number) (traced : BodyShape.ofTrace? kind = some shape)
    (hooked : Instrument.HooksUp listing hooks) (name : String) {channel : Channel σ} {state : σ}
    (plays : Plays channel.interpreter (pauses ++ listing :: hooks) state) :
    ∃ later, enter.runOver ⟨⟨shape, name, .paused 1⟩, .none, channel⟩ =
        (.ok (), ⟨⟨shape, name, .paused number⟩, .none, later⟩) ∧
      channel.Conducts (List.replicate pauses.length stepCommand ++ Instrument.listFunctions ::
        ((Instrument.targets listing.response.output).flatMap Instrument.commands).map Prod.fst)
        (pauses.map fun pause => pause.response.output) state later := by
  obtain ⟨middle, paused, loaded⟩ := plays.split
  cases body with
  | expression =>
    cases traced
    cases paused
    obtain ⟨later, ran, became⟩ := Instrument.conducts_loadFunctions hooked loaded
    refine ⟨later, ?_, became⟩
    unfold enter
    rw [runOver_bind_frame]
    dsimp only
    rw [runOver_bind_modifyFrame, runOver_talk, ran]
    rfl
  | block loops stops =>
    cases traced
    obtain ⟨reached, ran, became⟩ := conducts_pause loops stops name 1 .none paused
    obtain ⟨response, scene, asked, arrived⟩ := Act.bind_ok ran
    rw [← became.interpreter] at loaded
    obtain ⟨later, finished, listed⟩ := Instrument.conducts_loadFunctions hooked loaded
    refine ⟨later, ?_, by simpa using became.trans listed⟩
    unfold enter
    rw [runOver_bind_frame]
    dsimp only
    rw [runOver_bind, asked]
    dsimp only
    rw [runOver_bind, arrived]
    dsimp only
    rw [runOver_talk, finished]

end CallFrame

/-- The exchanges of a call that is entered. -/
structure Entrance where
  wrappers : List Exchange
  hook : Exchange
  pauses : List Exchange
  listing : Exchange
  hooks : List Exchange

namespace Entrance

def exchanges (entrance : Entrance) : List Exchange :=
  entrance.wrappers ++ [entrance.hook] ++ (entrance.pauses ++ entrance.listing :: entrance.hooks)

/-- The exchanges lead to a line of a function: a few steps of the wrapper, the hook, which prints the function's name on
its second line, the pauses of the body, and the hooking up of the functions in sight. -/
structure LeadsTo (entrance : Entrance) (name : String) (number : Nat) : Prop where
  few : entrance.wrappers.length ≤ 3
  wraps : ∀ wrapper ∈ entrance.wrappers, wrapper.Wraps
  command : entrance.hook.command = stepCommand
  echoed : (lines entrance.hook.response.text.toList)[1]? = some ("[1] \"".toList ++ (name.toList ++ "\"".toList))
  body : BodyPauses entrance.hook.response.kind entrance.pauses number
  hooked : Instrument.HooksUp entrance.listing entrance.hooks

end Entrance

/-- Over an interpreter that answers so, the call is entered: its frame is paused at that line of that function, the
commands sent are those of the exchanges and no others, and what is written is what was printed in the pauses. -/
theorem CallFrame.ofCall_enters {entrance : Entrance} {name : String} {number : Nat} {channel : Channel σ} {state : σ}
    (leads : entrance.LeadsTo name number) (plays : Plays channel.interpreter entrance.exchanges state) :
    ∃ frame later, (ofCall : Talk σ CallFrame).runOver channel = (.ok frame, later) ∧
      frame.isActive = true ∧ frame.location = ⟨name, number⟩ ∧ later.interpreter = state ∧
      later.sent = channel.sent ++ (List.replicate (entrance.wrappers.length + 1) stepCommand ++
        (List.replicate entrance.pauses.length stepCommand ++ Instrument.listFunctions ::
          ((Instrument.targets entrance.listing.response.output).flatMap Instrument.commands).map Prod.fst)) ∧
      later.records = channel.records ++
        ((entrance.pauses.map fun pause => pause.response.output).filter (· ≠ "")).map (⟨·, false⟩) := by
  obtain ⟨shape, traced⟩ := leads.body.shape
  obtain ⟨middle, begun, ended⟩ := plays.split
  have few : entrance.wrappers.length ≤ Entry.wrapperSteps := leads.few
  obtain ⟨found, ran, became⟩ := Entry.conducts_findWithin few leads.wraps leads.command traced begun
  rw [← became.interpreter] at ended
  rw [Entry.enteredName_eq leads.echoed] at ran
  obtain ⟨later, entered, finished⟩ := conducts_enter leads.body traced leads.hooked name ended
  have whole := became.trans finished
  refine ⟨⟨shape, name, .paused number⟩, later, ?_, rfl, rfl, whole.interpreter, whole.sent, whole.records⟩
  have started (ended : Except Failure Unit × Scene CallFrame σ)
      (entered : enter.runOver ⟨⟨shape, name, .paused 1⟩, .none, found⟩ = ended) :
      (start ⟨name, shape, entrance.hook.response⟩).runOver found =
        (ended.1.map fun _ => ended.2.frame, ended.2.channel) := entered ▸ rfl
  rw [ofCall, Talk.runOver_bind, Entry.find, ran]
  exact started _ entered

theorem plays_replies (exchanges : List Exchange) :
    Plays (⟨[], exchanges.map fun exchange => .said exchange.body "", 0⟩ : Scripted) exchanges ⟨[], [], 0⟩ := by
  induction exchanges with
  | nil => exact .nil
  | cons exchange rest ih => exact .cons rfl ih

def loopHead : Exchange :=
  .of stepCommand "entered\ndebug at #2: for (i in 1:2) \x7b\nBrowse[2]> " (by decide +kernel)

def firstStatement : Exchange :=
  .of stepCommand "Debug at 3: print(i)\nBrowse[2]> " (by decide +kernel)

/-- A function is entered over one step of the wrapper, its body begins with a loop, and another function is in sight. -/
def loopEntrance : Entrance where
  wrappers := [.of stepCommand "debug: .doTrace(enter(), \"on entry\")\nBrowse[2]> " (by decide +kernel)]
  hook := .of stepCommand "Tracing f(2) on entry\n[1] \"f\"\ndebug: \x7b\n  x\n\x7d\nBrowse[2]> " (by decide +kernel)
  pauses := [loopHead, firstStatement]
  listing := .of Instrument.listFunctions "[1] \"g\"\nBrowse[2]> " (by decide +kernel)
  hooks := [.of ".rdbg_g_enter <- function() \x7b print(\"g\") \x7d" "Browse[2]> " (by decide +kernel),
    .of ".rdbg_g_exit <- function() \x7b print(\"g\") \x7d" "Browse[2]> " (by decide +kernel),
    .of "trace(g, .rdbg_g_enter, exit = .rdbg_g_exit)" "[1] \"g\"\nBrowse[2]> " (by decide +kernel),
    .of "debug(g)" "Browse[2]> " (by decide +kernel)]

theorem loopEntrance_leads : loopEntrance.LeadsTo "f" 3 where
  few := by decide
  wraps := by
    intro wrapper inside
    obtain rfl := List.mem_singleton.mp inside
    exact .inr ⟨"debug: .doTrace(enter(), \"on entry\")".toList, ⟨rfl, by decide +kernel, by decide +kernel⟩, by decide +kernel⟩
  command := rfl
  echoed := by decide +kernel
  body := by
    have header : loopHead.AtLoop :=
      ⟨"debug at #2: for (i in 1:2) \x7b".toList, ⟨rfl, by decide +kernel, by decide +kernel⟩, by decide +kernel⟩
    have pauses : firstStatement.PausesAt (Marker.plainLineMark.toList ++ (['3'] ++ (": ".toList ++ "print(i)".toList))) :=
      ⟨rfl, by decide +kernel, by decide +kernel⟩
    have stops : firstStatement.StopsAt 3 := .numbered (.inr rfl) (by decide) (by decide) (by decide) pauses (by decide +kernel)
    have block : BodyPauses .tracedBlock ([loopHead] ++ [firstStatement]) 3 := .block (by simpa using header) stops
    have kind : loopEntrance.hook.response.kind = .tracedBlock := by decide +kernel
    exact kind ▸ block
  hooked := ⟨rfl, by decide +kernel, by decide +kernel⟩

theorem loopEntrance_entered :
    let script : Scripted := ⟨[], loopEntrance.exchanges.map fun exchange => .said exchange.body "", 0⟩
    loopEntrance.LeadsTo "f" 3 ∧ Plays script loopEntrance.exchanges ⟨[], [], 0⟩ ∧
      ∃ frame later, (CallFrame.ofCall : Talk Scripted CallFrame).runOver (.fresh script) = (.ok frame, later) ∧
        frame.location = ⟨"f", 3⟩ ∧ later.records = [⟨"entered", false⟩] ∧
        later.sent = ["n", "n", "n", "n", Instrument.listFunctions, ".rdbg_g_enter <- function() \x7b print(\"g\") \x7d",
          ".rdbg_g_exit <- function() \x7b print(\"g\") \x7d", "trace(g, .rdbg_g_enter, exit = .rdbg_g_exit)", "debug(g)"] := by
  intro script
  have plays : Plays (Channel.fresh script).interpreter loopEntrance.exchanges ⟨[], [], 0⟩ := plays_replies _
  obtain ⟨frame, later, ran, _, location, _, sent, records⟩ := CallFrame.ofCall_enters loopEntrance_leads plays
  exact ⟨loopEntrance_leads, plays, frame, later, ran, location, records.trans (by decide +kernel), sent.trans (by decide +kernel)⟩

end RStepper
