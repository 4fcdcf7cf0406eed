import RStepper.Interpreter.Scripted
import RStepper.Proofs.Exchanges
import RStepper.Proofs.ScriptFeed

/-! The head of a braced loop is where a loop is announced, not a statement, and a step goes past it. A pause
goes past any number of heads, one behind the other; a return goes past one. -/

namespace RStepper
variable {φ σ α β : Type}

/-- The announcement of the current line in a response that tells a position. -/
def Response.announcement? (response : Response) : Option (List Char) :=
  match response.kind with
  | .paused => CallFrame.announcedBy response
  | .returned | .returnedMany => Position.announcementAfterReturns? response.text.toList
  | _ => none

def Response.announcesLoop (response : Response) : Bool :=
  response.announcement?.any Position.isLoopHeader

/-- A response of this kind tells a position. -/
def Kind.tells (kind : Kind) : Bool :=
  [Kind.paused, .returned, .returnedMany].contains kind

/-- The response to a command, if it tells a position. -/
def Sending.mark? (sending : Sending) : Option Response :=
  sending.response?.filter (·.kind.tells)

/-- The responses that told a position, oldest first. -/
def Channel.marks (channel : Channel σ) : List Response :=
  channel.sendings.filterMap Sending.mark?

namespace Channel

@[simp] theorem marks_write (channel : Channel σ) (record : Record) : (channel.write record).marks = channel.marks := by
  simp [marks]

theorem Grows.marks {allowed : String → Prop} {before after : Channel σ} (grows : before.Grows allowed after) :
    ∃ more, after.marks = before.marks ++ more := by
  obtain ⟨more, sent, _⟩ := grows
  exact ⟨more.filterMap Sending.mark?, by rw [Channel.marks, sent, List.filterMap_append]; rfl⟩

/-- A position was told, and the last one is not the head of a loop. -/
def Arrives (before after : Channel σ) : Prop :=
  ∃ more last, after.marks = before.marks ++ more ∧ more.getLast? = some last ∧ last.announcesLoop = false

theorem Arrives.behind {allowed : String → Prop} {first middle last : Channel σ} (begun : first.Grows allowed middle)
    (ended : middle.Arrives last) : first.Arrives last := by
  obtain ⟨some, begun⟩ := begun.marks
  obtain ⟨more, final, ended, isLast, clear⟩ := ended
  exact ⟨some ++ more, final, by rw [ended, begun, List.append_assoc], by simp [List.getLast?_append, isLast], clear⟩

end Channel

namespace Talk
variable [Interpreter σ]

theorem response?_of_execute {command : String} {channel later : Channel σ} {response : Response}
    (ran : (execute command).runOver channel = (.ok response, later)) :
    (channel.sending command).response? = some response := by
  obtain ⟨body, diagnostics, said, classified⟩ := execute_ok ran
  rw [Channel.sending, Sending.response?, said]
  exact classified

theorem marks_execute {command : String} {channel later : Channel σ} {response : Response}
    (ran : (execute command).runOver channel = (.ok response, later)) :
    later.marks = channel.marks ++ if response.kind.tells then [response] else [] := by
  have sent := sendings_execute command channel
  rw [ran] at sent
  have found := response?_of_execute ran
  have marked : (channel.sending command).mark? = if response.kind.tells then some response else none := by
    rw [Sending.mark?, found]
    rfl
  rw [Channel.marks, sent, List.filterMap_append]
  congr 1
  cases tells : response.kind.tells <;> simp [marked, tells]

theorem expecting_ok {command : String} {expected : List Kind} {channel later : Channel σ} {response : Response}
    (ran : (expecting command expected).runOver channel = (.ok response, later)) :
    (execute command).runOver channel = (.ok response, later) ∧ response.kind ∈ expected := by
  obtain ⟨found, middle, executed, placed⟩ := bind_ok ran
  split at placed
  next member =>
    cases placed
    exact ⟨executed, member⟩
  next => cases placed

theorem marks_expecting {command : String} {expected : List Kind} {channel later : Channel σ} {response : Response}
    (silent : ∀ kind ∈ expected, kind.tells = false)
    (ran : (expecting command expected).runOver channel = (.ok response, later)) : later.marks = channel.marks := by
  obtain ⟨executed, member⟩ := expecting_ok ran
  simpa [silent _ member] using marks_execute executed

theorem grows_expecting {command : String} {expected : List Kind} {channel later : Channel σ}
    {outcome : Except Failure Response} (ran : (expecting command expected).runOver channel = (outcome, later)) :
    channel.Grows (fun _ => True) later := by
  have sent := sendings_expecting command expected channel
  rw [ran] at sent
  exact ⟨_, sent, fun _ _ => trivial⟩

theorem marks_paused {command : String} {channel later : Channel σ} {response : Response}
    (ran : (expecting command [.paused]).runOver channel = (.ok response, later)) :
    response.kind = .paused ∧ later.marks = channel.marks ++ [response] := by
  obtain ⟨executed, member⟩ := expecting_ok ran
  have kind : response.kind = .paused := List.mem_singleton.mp member
  exact ⟨kind, by simpa [kind, Kind.tells] using marks_execute executed⟩

end Talk

namespace Instrument
variable [Interpreter σ]

theorem marks_runAll {plan : List (String × Kind)} (silent : ∀ entry ∈ plan, entry.2.tells = false)
    {channel later : Channel σ}
    (ran : (runAll plan).runOver channel = (.ok (), later)) : later.marks = channel.marks := by
  induction plan generalizing channel with
  | nil =>
    cases ran
    rfl
  | cons entry rest ih =>
    obtain ⟨response, middle, asked, further⟩ := Talk.bind_ok ran
    have first : middle.marks = channel.marks := by
      apply Talk.marks_expecting _ asked
      simpa using silent entry List.mem_cons_self
    exact (ih (fun other member => silent other (List.mem_cons_of_mem _ member)) further).trans first

theorem marks_loadFunctions {channel later : Channel σ} (ran : loadFunctions.runOver channel = (.ok (), later)) :
    later.marks = channel.marks := by
  obtain ⟨listing, middle, listed, hooked⟩ := Talk.bind_ok ran
  have first : middle.marks = channel.marks := Talk.marks_expecting (by decide) listed
  refine (marks_runAll ?_ hooked).trans first
  rintro ⟨command, kind⟩ member
  obtain ⟨name, _, inside⟩ := List.mem_flatMap.mp member
  simp only [commands, List.mem_cons, Prod.mk.injEq, List.not_mem_nil, or_false] at inside
  rcases inside with ⟨_, rfl⟩ | ⟨_, rfl⟩ | ⟨_, rfl⟩ | ⟨_, rfl⟩ <;> rfl

end Instrument

namespace CallFrame
variable [Interpreter σ]
open Act

/-- A pause that goes well ends at an announcement that is no head of a loop, however many it went past. -/
theorem pauseAt_marks {response : Response} {scene later : Scene CallFrame σ} (paused : response.kind = .paused)
    (ran : (pauseAt response).runOver scene = (.ok (), later)) :
    ∃ more last, later.channel.marks = scene.channel.marks ++ more ∧ (response :: more).getLast? = some last ∧
      last.announcesLoop = false := by
  change pauseIn response scene = _ at ran
  have written (response : Response) (scene : Scene CallFrame σ) :
      (noted response scene).channel.marks = scene.channel.marks :=
    Channel.marks_write ..
  fun_induction pauseIn response scene with
  | case1 response scene here loops next channel stepped ih =>
    obtain ⟨kind, told⟩ := Talk.marks_paused stepped
    obtain ⟨more, last, ended, isLast, clear⟩ := ih kind ran
    refine ⟨next :: more, last, ?_, ?_, clear⟩
    · rw [ended, told, written, List.append_assoc]
      rfl
    · rwa [List.getLast?_cons_cons]
  | case2 => cases ran
  | case3 response scene here stays =>
    obtain rfl : noted response scene = later := (Prod.mk.inj ran).2
    refine ⟨[], response, ?_, rfl, ?_⟩
    · rw [written, List.append_nil]
    · simpa [Response.announcesLoop, Response.announcement?, paused] using stays

theorem pause_arrives {response : Response} {channel : Channel σ} {scene later : Scene CallFrame σ}
    (paused : response.kind = .paused) (told : scene.channel.marks = channel.marks ++ [response])
    (ran : (do pauseAt response; talk Instrument.loadFunctions : Act CallFrame σ Unit).runOver scene = (.ok (), later)) :
    channel.Arrives later.channel := by
  obtain ⟨_, middle, stopped, listed⟩ := bind_ok ran
  obtain ⟨more, last, ended, isLast, clear⟩ := pauseAt_marks paused stopped
  obtain ⟨listing, loaded, rfl⟩ := talk_run listed
  refine ⟨response :: more, last, ?_, isLast, clear⟩
  rw [Instrument.marks_loadFunctions loaded, ended, told, List.append_assoc]
  rfl

theorem enter_arrives {scene later : Scene CallFrame σ} (block : scene.frame.shape = .block)
    (ran : enter.runOver scene = (.ok (), later)) : scene.channel.Arrives later.channel := by
  unfold enter at ran
  rw [runOver_bind_frame, block, runOver_bind_talk] at ran
  dsimp only at ran
  split at ran
  next response channel asked =>
    obtain ⟨kind, told⟩ := Talk.marks_paused asked
    exact pause_arrives kind told ran
  next => cases ran

theorem ofCall_arrives {channel later : Channel σ} {callee : CallFrame} (block : callee.shape = .block)
    (ran : (ofCall : Talk σ CallFrame).runOver channel = (.ok callee, later)) : channel.Arrives later := by
  obtain ⟨entry, middle, found, started⟩ := Talk.bind_ok ran
  have searched := Entry.sends_find isService_stepCommand channel
  rw [found] at searched
  let scene : Scene CallFrame σ := ⟨⟨entry.shape, entry.name, .paused 1⟩, .none, middle⟩
  have shape := (stays_enter scene).shape
  change ((enter.runOver scene).1.map fun _ => (enter.runOver scene).2.frame, (enter.runOver scene).2.channel) = _
    at started
  rcases entered : enter.runOver scene with ⟨_ | _, behind⟩ <;> rw [entered] at started shape <;> cases started
  refine .behind searched (enter_arrives ?_ entered)
  exact shape.symm.trans block

end CallFrame

namespace ScriptFrame
variable [Interpreter σ]
open Act

/-- A call was entered, and one of a block stands at a statement of it. -/
def Descends (before after : Scene ScriptFrame σ) : Prop :=
  ∃ callee : CallFrame, after.change = { before.change with entered := before.change.entered ++ [callee] } ∧
    (callee.shape = .block → before.channel.Arrives after.channel)

omit [Interpreter σ] in
theorem Descends.behind {allowed : String → Prop} {before later after : Scene ScriptFrame σ}
    (descends : Descends later after) (grows : before.channel.Grows allowed later.channel)
    (change : later.change = before.change) : Descends before after := by
  obtain ⟨callee, entered, arrives⟩ := descends
  exact ⟨callee, by rw [entered, change], fun block => .behind grows (arrives block)⟩

theorem Runs.descends {command : String} {ahead : List String} {before after : Scene ScriptFrame σ} {entered : Bool}
    (runs : Runs command ahead before entered after) (enters : entered = true) : Descends before after := by
  induction runs with
  | goesOn answered _ _ ih => exact (ih enters).behind (Talk.grows_expecting answered) rfl
  | enters answered descended =>
    obtain ⟨callee, called, found, pushed⟩ := bind_ok descended
    obtain ⟨channel, made, rfl⟩ := talk_run found
    cases pushed
    exact ⟨callee, rfl, fun block => .behind (Talk.grows_expecting answered) (CallFrame.ofCall_arrives block made)⟩
  | finishes => cases enters

end ScriptFrame

namespace CallFrame
variable [Interpreter σ]

end CallFrame

namespace Debuggee
variable [Interpreter σ]

/-- The responses of a step that told a position. -/
def marks (debuggee : Debuggee σ) : List Response :=
  (debuggee.adds .advance).filterMap Sending.mark?

end Debuggee
end RStepper
