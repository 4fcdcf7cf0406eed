import Mathlib.Data.List.Infix
import Mathlib.Data.List.ReduceOption
import Mathlib.Data.List.Range
import RStepper.Interpreter.Scripted
import RStepper.Proofs.ServerHistory

/-! The numbers on the wire. A writer takes its number first and the wire later, so another message may overtake it.
No number is lost or given twice: the messages on the wire and those under way have the numbers from 1 on. They are on
the wire in this order as long as no two of them are under way at once. -/

namespace RStepper.Adapter
variable {σ α : Type}

/-- The number that a message has which was begun and is not on the wire. -/
def Task.number? : Task α → Option Nat
  | .put message => some message.number
  | .write _ | .own _ => none

@[simp] theorem Task.number?_write (content : Content) : (Task.write content : Task α).number? = none := rfl

@[simp] theorem Task.number?_own (deed : α) : (Task.own deed).number? = none := rfl

/-- What a thread has in hand, as far as numbers go. -/
def Task.hand (tasks : List (Task α)) : List (Option Nat) :=
  tasks.map Task.number?

/-- None of it has a number. -/
def Unnumbered (hand : List (Option Nat)) : Prop :=
  ∀ number ∈ hand, number = none

def Session.hands (session : Session σ) : List (List (Option Nat)) :=
  [Task.hand session.tasks, Task.hand session.forwarding]

namespace Server

/-- What the threads have in hand: the request loop, and the worker and the forwarder of each session. -/
def hands (server : Server σ) : List (List (Option Nat)) :=
  Task.hand server.tasks :: server.sessions.flatMap Session.hands

/-- The numbers that were taken for messages which are not on the wire. -/
def underWay (server : Server σ) : List Nat :=
  server.hands.flatten.reduceOption

def numbers (server : Server σ) : List Nat :=
  server.written.map Message.number

end Server

/-- What a step of one thread does to the wire and to what the threads have in hand. -/
inductive Handles (wire : Wire) : List (List (Option Nat)) → Wire → List (List (Option Nat)) → Prop where
  | rests {hands} : Handles wire hands wire hands
  | draws (before) {rest behind} : Handles wire (before ++ (none :: rest) :: behind)
      { wire with drawn := wire.drawn + 1 } (before ++ (some (wire.drawn + 1) :: rest) :: behind)
  | posts (before) {rest behind} (message : Message) : Handles wire (before ++ (some message.number :: rest) :: behind)
      { wire with written := wire.written ++ [message] } (before ++ rest :: behind)
  | does (before) {rest behind more} (fresh : Unnumbered more) :
      Handles wire (before ++ (none :: rest) :: behind) wire (before ++ (more ++ rest) :: behind)
  | takes (before) {hand behind more} (fresh : Unnumbered more) :
      Handles wire (before ++ hand :: behind) wire (before ++ (hand ++ more) :: behind)
  /-- A new session begins, with its worker and its forwarder. -/
  | adopts {rest behind first second} (fresh : Unnumbered first) (freshToo : Unnumbered second) :
      Handles wire ((none :: rest) :: behind) wire (rest :: first :: second :: behind)

/-- The numbers that were taken are on the wire or under way, and each thread has one message under way at most. -/
structure Numbered (wire : Wire) (hands : List (List (Option Nat))) : Prop where
  balanced : (wire.written.map Message.number ++ hands.flatten.reduceOption).Perm (List.range' 1 wire.drawn)
  single : ∀ hand ∈ hands, Unnumbered hand.tail

theorem Unnumbered.nil : Unnumbered [] := nofun

theorem Unnumbered.append {first second : List (Option Nat)} (fresh : Unnumbered first) (freshToo : Unnumbered second) :
    Unnumbered (first ++ second) := by
  intro number member
  rcases List.mem_append.mp member with member | member
  · exact fresh number member
  · exact freshToo number member

theorem Unnumbered.tail {hand : List (Option Nat)} (fresh : Unnumbered hand) : Unnumbered hand.tail :=
  fun number member => fresh number (List.mem_of_mem_tail member)

theorem Unnumbered.reduceOption {hand : List (Option Nat)} (fresh : Unnumbered hand) : hand.reduceOption = [] := by
  induction hand with
  | nil => rfl
  | cons number rest ih =>
    obtain rfl := fresh number List.mem_cons_self
    exact ih fun other member => fresh other (List.mem_cons_of_mem _ member)

theorem Unnumbered.tail_append {hand more : List (Option Nat)} (single : Unnumbered hand.tail) (fresh : Unnumbered more) :
    Unnumbered (hand ++ more).tail := by
  cases hand with
  | nil => exact fresh.tail
  | cons number rest => exact single.append fresh

variable {wire later : Wire} {hands after : List (List (Option Nat))}

theorem reduceOption_hands (before : List (List (Option Nat))) (hand : List (Option Nat))
    (behind : List (List (Option Nat))) : (before ++ hand :: behind).flatten.reduceOption =
      before.flatten.reduceOption ++ (hand.reduceOption ++ behind.flatten.reduceOption) := by
  simp [List.reduceOption_append]

/-- All threads but the one that took a step have in hand what they had. -/
theorem single_changed {before behind : List (List (Option Nat))} {hand changed : List (Option Nat)}
    (single : ∀ other ∈ before ++ hand :: behind, Unnumbered other.tail) (fresh : Unnumbered changed.tail) :
    ∀ other ∈ before ++ changed :: behind, Unnumbered other.tail := by
  intro other member
  rcases List.mem_append.mp member with member | member
  · exact single other (List.mem_append_left _ member)
  · rcases List.mem_cons.mp member with rfl | member
    · exact fresh
    · exact single other (List.mem_append_right _ (List.mem_cons_of_mem _ member))

theorem Handles.numbered (handles : Handles wire hands later after) (numbered : Numbered wire hands) :
    Numbered later after := by
  obtain ⟨balanced, single⟩ := numbered
  cases handles with
  | rests => exact ⟨balanced, single⟩
  | @draws before rest behind =>
    have fresh : Unnumbered rest := single (none :: rest) (by simp)
    refine ⟨?_, single_changed single fresh⟩
    rw [reduceOption_hands, List.reduceOption_cons_of_none] at balanced
    rw [reduceOption_hands, List.reduceOption_cons_of_some, List.range'_1_concat, List.cons_append, ← List.append_assoc,
      Nat.add_comm 1]
    rw [← List.append_assoc] at balanced
    exact (List.perm_middle.trans (balanced.cons _)).trans (List.perm_append_singleton _ _).symm
  | @posts before rest behind message =>
    have fresh : Unnumbered rest := single (some message.number :: rest) (by simp)
    refine ⟨?_, single_changed single fresh.tail⟩
    rw [reduceOption_hands, List.reduceOption_cons_of_some, List.cons_append] at balanced
    rw [reduceOption_hands, List.map_append, List.append_assoc, List.map_singleton, List.singleton_append]
    exact (List.perm_middle.symm.append_left _).trans balanced
  | @does before rest behind more fresh =>
    have freshToo : Unnumbered rest := single (none :: rest) (by simp)
    refine ⟨?_, single_changed single (fresh.append freshToo).tail⟩
    rw [reduceOption_hands, List.reduceOption_cons_of_none] at balanced
    rwa [reduceOption_hands, List.reduceOption_append, fresh.reduceOption, List.nil_append]
  | @takes before hand behind more fresh =>
    refine ⟨?_, single_changed single ((single hand (by simp)).tail_append fresh)⟩
    rw [reduceOption_hands] at balanced
    rwa [reduceOption_hands, List.reduceOption_append, fresh.reduceOption, List.append_nil]
  | @adopts rest behind first second fresh freshToo =>
    have freshRest : Unnumbered rest := single (none :: rest) (by simp)
    refine ⟨?_, ?_⟩
    · simpa [List.reduceOption_append, fresh.reduceOption, freshToo.reduceOption] using balanced
    · simp only [List.forall_mem_cons] at single ⊢
      exact ⟨freshRest.tail, fresh.tail, freshToo.tail, single.2⟩

/-- A message that goes out while no other one is under way has the next number. -/
theorem Handles.inOrder (handles : Handles wire hands later after) (numbered : Numbered wire hands)
    (alone : hands.flatten.reduceOption.length ≤ 1)
    (inOrder : wire.written.map Message.number = List.range' 1 wire.written.length) :
    later.written.map Message.number = List.range' 1 later.written.length := by
  cases handles with
  | rests | draws | does | takes | adopts => exact inOrder
  | @posts before rest behind message =>
    have balanced := numbered.balanced
    rw [reduceOption_hands, List.reduceOption_cons_of_some, List.cons_append] at balanced alone
    have only : before.flatten.reduceOption = [] ∧ rest.reduceOption ++ behind.flatten.reduceOption = [] := by
      rw [List.length_append, List.length_cons] at alone
      exact ⟨List.eq_nil_of_length_eq_zero (by omega), List.eq_nil_of_length_eq_zero (by omega)⟩
    rw [only.1, only.2, List.nil_append, inOrder] at balanced
    have drawn : wire.drawn = wire.written.length + 1 := by
      have lengths := balanced.length_eq
      rw [List.length_append, List.length_range', List.length_range', List.length_singleton] at lengths
      exact lengths.symm
    rw [drawn, List.range'_1_concat, List.perm_append_left_iff, List.singleton_perm_singleton] at balanced
    rw [List.map_append, inOrder, List.length_append, List.length_singleton, List.range'_1_concat, ← balanced]
    rfl

theorem handles_next? {wire later : Wire} {tasks rest : List (Task α)}
    (done : Task.next? wire tasks = some (none, rest, later)) (before behind : List (List (Option Nat))) :
    Handles wire (before ++ Task.hand tasks :: behind) later (before ++ Task.hand rest :: behind) := by
  unfold Task.next? at done
  split at done <;> cases done
  · exact .draws before
  · exact .posts before _

theorem unnumbered_hand {tasks : List (Task α)} (fresh : ∀ task ∈ tasks, task.number? = none) :
    Unnumbered (Task.hand tasks) := by
  intro number member
  obtain ⟨task, inside, rfl⟩ := List.mem_map.mp member
  exact fresh task inside

@[simp] theorem hand_append (first second : List (Task α)) :
    Task.hand (first ++ second) = Task.hand first ++ Task.hand second := List.map_append

theorem unnumbered_map {β : Type} (items : List β) {task : β → Task α} (fresh : ∀ item, (task item).number? = none) :
    Unnumbered (Task.hand (items.map task)) := by
  apply unnumbered_hand
  intro begun member
  obtain ⟨item, _, rfl⟩ := List.mem_map.mp member
  exact fresh item

theorem unnumbered_forward (announcesEntry : Bool) (event : Event) :
    Unnumbered (Task.hand (forward announcesEntry event)) := by
  apply unnumbered_hand
  cases event with
  | stopped stop =>
    simp only [forward]
    split <;> simp
  | _ => simp [forward]

theorem unnumbered_reporting (events : List Event) (worker : Worker σ) :
    Unnumbered (Task.hand (Session.reporting events worker)) := by
  unfold Session.reporting
  rw [hand_append]
  refine (unnumbered_map events fun _ => rfl).append (unnumbered_hand ?_)
  split <;> simp

theorem unnumbered_behind (session : Session σ) (turn : Turn σ) : Unnumbered (Task.hand (session.behind turn).tasks) := by
  unfold Session.behind
  rw [hand_append]
  refine Unnumbered.append ?_ (unnumbered_reporting _ _)
  split
  · exact unnumbered_map _ fun _ => rfl
  · exact .nil

namespace Server

theorem hands_split (server : Server σ) {front back : List (Session σ)} {session : Session σ}
    (sessions : server.sessions = front ++ session :: back) :
    server.hands = (Task.hand server.tasks :: front.flatMap Session.hands) ++ Task.hand session.tasks ::
      Task.hand session.forwarding :: back.flatMap Session.hands := by
  simp [hands, sessions, Session.hands]

theorem hands_mapSession (server : Server σ) {change : Session σ → Session σ}
    (same : ∀ session, (change session).hands = session.hands) :
    (server.mapSession change).sessions.flatMap Session.hands = server.sessions.flatMap Session.hands := by
  unfold mapSession
  cases server.sessions with
  | nil => rfl
  | cons session former => exact congrArg (· ++ _) (same session)

theorem handles_perform? {server later : Server σ} {deed : LoopDeed σ} {rest more : List (Task (LoopDeed σ))}
    (tasks : server.tasks = .own deed :: rest) (performed : server.perform? deed = some (more, later)) :
    Handles server.wire server.hands later.wire { later with tasks := more ++ rest }.hands := by
  have hand : server.hands = (none :: Task.hand rest) :: server.sessions.flatMap Session.hands := by
    rw [hands, tasks]
    rfl
  -- What most deeds change is not in the hands of a thread.
  have done {changed : Server σ} (fresh : Unnumbered (Task.hand more))
      (same : changed.sessions.flatMap Session.hands = server.sessions.flatMap Session.hands) :
      Handles server.wire server.hands server.wire { changed with tasks := more ++ rest }.hands := by
    have left : { changed with tasks := more ++ rest }.hands = (Task.hand more ++ Task.hand rest) ::
        server.sessions.flatMap Session.hands := by
      rw [← same, ← hand_append]
      rfl
    rw [hand, left]
    exact .does [] fresh
  cases deed with
  | adopt debuggee stopsOnEntry showsOutput script =>
    cases performed
    rw [hand]
    exact .adopts (unnumbered_reporting _ _) .nil
  | setBreakpoints | leave => cases performed; exact done .nil rfl
  | tellStack => cases performed; exact done (unnumbered_hand (by simp)) rfl
  | submit request refusal =>
    obtain ⟨_, rfl, rfl⟩ | ⟨_, rfl, rfl⟩ := perform?_submit performed
    · exact done .nil (hands_mapSession server fun _ => rfl)
    · exact done (unnumbered_map _ fun _ => rfl) rfl
  | listen | stop => cases performed; exact done .nil (hands_mapSession server fun _ => rfl)
  | awaitWorker =>
    obtain ⟨_, rfl, rfl⟩ := perform?_awaitWorker performed
    exact done .nil rfl
  | join =>
    obtain ⟨_, rfl, rfl⟩ := perform?_join performed
    exact done .nil rfl

theorem handles_stepLoop? {server later : Server σ} (stepped : server.stepLoop? = some later) :
    Handles server.wire server.hands later.wire later.hands := by
  unfold stepLoop? at stepped
  split at stepped
  · cases stepped
  next rest wire done =>
    cases stepped
    exact handles_next? done [] _
  next deed rest wire done =>
    obtain ⟨⟨more, after⟩, performed, rfl⟩ := Option.map_eq_some_iff.mp stepped
    obtain ⟨tasks, rfl⟩ := Task.next?_own done
    exact (handles_perform? tasks performed :)

theorem handles_forwarded? {server told : Server σ} {session after : Session σ}
    (forwarded : server.forwarded? session = some (told, after)) (before behind : List (List (Option Nat))) :
    Handles server.wire (before ++ Task.hand session.forwarding :: behind) told.wire
        (before ++ Task.hand after.forwarding :: behind) ∧ told.tasks = server.tasks ∧ after.tasks = session.tasks := by
  unfold forwarded? at forwarded
  split at forwarded
  next done =>
    obtain ⟨heard, next, same⟩ := Option.map_eq_some_iff.mp forwarded
    cases same
    unfold Session.forwardNext? at next
    split at next
    · cases next
    · split at next <;> cases next
      rw [Task.next?_none done]
      exact ⟨.takes before (unnumbered_forward _ _), rfl, rfl⟩
  next rest wire done =>
    cases forwarded
    exact ⟨handles_next? done before behind, rfl, rfl⟩
  next deed rest wire done =>
    obtain ⟨tasks, rfl⟩ := Task.next?_own done
    have does : Handles server.wire (before ++ Task.hand session.forwarding :: behind) server.wire
        (before ++ Task.hand rest :: behind) := by
      rw [tasks]
      exact .does before .nil
    cases deed <;> cases forwarded <;> exact ⟨does, rfl, rfl⟩

theorem handles_stepForwarder? {server later : Server σ} {age : Nat} (stepped : server.stepForwarder? age = some later) :
    Handles server.wire server.hands later.wire later.hands := by
  unfold stepForwarder? at stepped
  obtain ⟨session, found, stepped⟩ := Option.bind_eq_some_iff.mp stepped
  obtain ⟨⟨told, after⟩, forwarded, rfl⟩ := Option.map_eq_some_iff.mp stepped
  obtain ⟨inside, rfl⟩ := List.getElem?_eq_some_iff.mp found
  obtain ⟨front, back, sessions, _, changed⟩ : ∃ front back, server.sessions = front ++ server.sessions[age] :: back ∧
    front.length = age ∧ server.sessions.set age after = front ++ after :: back := List.exists_of_set inside
  obtain ⟨handles, tasks, kept⟩ := handles_forwarded? forwarded
    ((Task.hand server.tasks :: front.flatMap Session.hands) ++ [Task.hand server.sessions[age].tasks])
    (back.flatMap Session.hands)
  have split : { told with sessions := server.sessions.set age after }.hands = _ :=
    hands_split { told with sessions := server.sessions.set age after } changed
  rw [hands_split server sessions, split]
  dsimp only
  rw [tasks, kept]
  simpa using handles

theorem unnumbered_running (server : Server σ) (number : Nat) (command : String) (mode : RunMode) (body : Option Json) :
    Unnumbered (Task.hand (server.running number command mode body)) := by
  unfold running
  split <;> exact unnumbered_hand (by simp)

theorem unnumbered_tasksFor (host : Host σ) (server : Server σ) (number : Nat) (command : String)
    (arguments : Option Json) :
    Unnumbered (Task.hand (server.tasksFor host number command arguments)) := by
  unfold tasksFor
  split
  · exact unnumbered_hand (by simp)
  · unfold launching
    repeat' split
    all_goals exact unnumbered_hand (by simp)
  · exact unnumbered_hand (by simp)
  · split <;> exact unnumbered_hand (by simp)
  · exact unnumbered_hand (by simp)
  · exact unnumbered_hand (by simp)
  · exact unnumbered_hand (by simp)
  · exact unnumbered_hand (by simp [inspecting])
  · split <;> exact unnumbered_hand (by simp [inspecting])
  · exact unnumbered_running server _ _ _ _
  · exact unnumbered_running server _ _ _ _
  · exact unnumbered_running server _ _ _ _
  · exact unnumbered_running server _ _ _ _
  · exact unnumbered_hand (by simp [shutdown])
  · exact unnumbered_hand (by simp [shutdown])
  · exact unnumbered_hand (by simp)

theorem handles_tasks (server : Server σ) {more : List (Task (LoopDeed σ))} (fresh : Unnumbered (Task.hand more)) :
    Handles server.wire server.hands server.wire { server with tasks := server.tasks ++ more }.hands := by
  rw [hands, hands, hand_append]
  exact .takes [] fresh

variable [Interpreter σ]

/-- A worker that takes up a request or goes on with a run has nothing in hand. -/
theorem hand_work? {session after : Session σ} {breakpoints left : Breakpoints}
    (worked : session.work? breakpoints = some (after, left)) :
    Unnumbered (Task.hand after.tasks) ∧ after.forwarding = session.forwarding := by
  cases Session.work?_cases worked <;> exact ⟨unnumbered_behind _ _, rfl⟩

theorem handles_stepWorker? {server later : Server σ} (stepped : server.stepWorker? = some later) :
    Handles server.wire server.hands later.wire later.hands := by
  unfold stepWorker? at stepped
  split at stepped
  · cases stepped
  next session former sessions =>
  have hands : server.hands = [Task.hand server.tasks] ++ Task.hand session.tasks :: Task.hand session.forwarding ::
      former.flatMap Session.hands := by
    rw [Server.hands, sessions]
    rfl
  rw [hands]
  split at stepped
  next done =>
    obtain ⟨⟨after, breakpoints⟩, worked, rfl⟩ := Option.map_eq_some_iff.mp stepped
    obtain ⟨fresh, same⟩ := hand_work? worked
    rw [Task.next?_none done, ← same]
    exact .takes [_] fresh
  next rest wire done =>
    cases stepped
    exact handles_next? done [_] _
  next deed rest wire done =>
    cases stepped
    obtain ⟨tasks, rfl⟩ := Task.next?_own done
    rw [tasks]
    cases deed <;> exact .does [_] .nil

theorem handles_step? {server later : Server σ} {actor : Actor} (stepped : server.step? actor = some later) :
    Handles server.wire server.hands later.wire later.hands := by
  cases actor with
  | loop => exact handles_stepLoop? stepped
  | worker => exact handles_stepWorker? stepped
  | forwarder age => exact handles_stepForwarder? stepped

theorem handles_move (host : Host σ) (history : History σ) (occurrence : Occurrence) :
    let later := (history.move host occurrence).server
    Handles history.server.wire history.server.hands later.wire later.hands := by
  cases occurrence with
  | read message =>
    unfold History.move
    dsimp only
    split
    · unfold receive
      split
      · exact handles_tasks _ (unnumbered_tasksFor _ _ _ _ _)
      · exact .rests
    · exact .rests
  | inputEnd =>
    unfold History.move
    dsimp only
    split
    · rw [finish, List.append_assoc]
      exact handles_tasks _ (unnumbered_hand (by simp [shutdown]))
    · exact .rests
  | fault =>
    unfold History.move
    dsimp only
    split
    · exact handles_tasks _ (unnumbered_hand (by simp))
    · exact .rests
  | step actor =>
    unfold History.move
    dsimp only
    cases stepped : history.server.step? actor with
    | none => exact .rests
    | some later => exact handles_step? stepped

omit [Interpreter σ] in
theorem numbered_begin (attached : Option (Debuggee σ × Bool)) :
    let server := (History.begin attached).server
    Numbered server.wire server.hands ∧ server.numbers = List.range' 1 server.written.length := by
  have fresh : Numbered Wire.fresh (fresh : Server σ).hands :=
    ⟨.refl [], fun _ member => List.mem_singleton.mp member ▸ Unnumbered.nil⟩
  cases attached with
  | none => exact ⟨fresh, rfl⟩
  | some prepared => exact ⟨(handles_tasks .fresh (unnumbered_hand (by simp))).numbered fresh, rfl⟩

end Server

namespace History
variable [Interpreter σ]

/-- No two messages were under way at once. -/
def OneAtATime (host : Host σ) (history : History σ) (occurrences : List Occurrence) : Prop :=
  ∀ earlier, earlier <+: occurrences → (history.moved host earlier).server.underWay.length ≤ 1

instance (host : Host σ) (history : History σ) (occurrences : List Occurrence) :
    Decidable (history.OneAtATime host occurrences) :=
  decidable_of_iff (∀ earlier ∈ occurrences.inits, (history.moved host earlier).server.underWay.length ≤ 1)
    (forall_congr' fun _ => imp_congr_left (List.mem_inits ..))

theorem moved_numbered (host : Host σ) (attached : Option (Debuggee σ × Bool)) (occurrences : List Occurrence) :
    let server := ((begin attached).moved host occurrences).server
    Numbered server.wire server.hands := by
  apply moved_induction (motive := fun history => Numbered history.server.wire history.server.hands)
  · exact (Server.numbered_begin attached).1
  · exact fun history occurrence numbered => (Server.handles_move host history occurrence).numbered numbered

theorem moved_inOrder (host : Host σ) (attached : Option (Debuggee σ × Bool)) {occurrences : List Occurrence}
    (single : (begin attached).OneAtATime host occurrences) :
    let server := ((begin attached).moved host occurrences).server
    server.numbers = List.range' 1 server.written.length := by
  induction occurrences using List.reverseRecOn with
  | nil => exact (Server.numbered_begin attached).2
  | append_singleton earlier occurrence ih =>
    have before := ih fun first start => single first (start.trans (List.prefix_append ..))
    have moved : (begin attached).moved host (earlier ++ [occurrence]) =
        ((begin attached).moved host earlier).move host occurrence := List.foldl_concat ..
    rw [moved]
    exact (Server.handles_move host _ occurrence).inOrder (moved_numbered host attached earlier)
      (single earlier (List.prefix_append ..)) before

/-- Whatever the client sends and in whatever order the threads take their steps: the messages that were written and
those under way have the numbers from 1 on, each of them once, and no thread has two messages under way. The messages
were written in the order of their numbers if no two of them ever were under way at once. -/
theorem wire_numbers (host : Host σ) (attached : Option (Debuggee σ × Bool)) (occurrences : List Occurrence) :
    let server := ((begin attached).moved host occurrences).server
    (server.numbers ++ server.underWay).Perm (List.range' 1 server.wire.drawn) ∧
      (∀ hand ∈ server.hands, hand.reduceOption.length ≤ 1) ∧
      ((begin attached).OneAtATime host occurrences → server.numbers = List.range' 1 server.written.length) := by
  intro server
  have numbered := moved_numbered host attached occurrences
  refine ⟨numbered.balanced, fun hand member => ?_, moved_inOrder host attached⟩
  have fresh := numbered.single hand member
  cases hand with
  | nil => exact Nat.zero_le 1
  | cons number rest =>
    have none : rest.reduceOption = [] := Unnumbered.reduceOption fresh
    cases number <;> simp [List.reduceOption_cons_of_some, List.reduceOption_cons_of_none, none]

/-- The forwarder begins with the first pause when the response is on the wire. -/
def undisturbed : List Occurrence :=
  [.step .loop, .step .loop, .step .worker, .asks 1 "threads" none, .step .loop, .step .loop, .step (.forwarder 0),
    .step (.forwarder 0), .step (.forwarder 0), .step (.forwarder 0)]

theorem undisturbed_numbers :
    let attached := some (.start "x" (⟨[], [], 0⟩ : Scripted), true)
    (begin attached).OneAtATime barrenHost undisturbed ∧
      ((begin attached).moved barrenHost undisturbed).server.numbers = List.range' 1 2 := by
  intro attached
  have single : (begin attached).OneAtATime barrenHost undisturbed := by decide +kernel
  have count : ((begin attached).moved barrenHost undisturbed).server.written.length = 2 := by decide +kernel
  exact ⟨single, count ▸ (wire_numbers barrenHost attached undisturbed).2.2 single⟩

/-- The forwarder has its number for the first pause when the request loop takes the next one, and it comes to the
wire last. -/
def overtaking : List Occurrence :=
  [.step .loop, .step .loop, .step .worker, .step (.forwarder 0), .step (.forwarder 0), .step (.forwarder 0),
    .asks 1 "threads" none, .step .loop, .step .loop, .step (.forwarder 0)]

theorem overtaking_numbers :
    ((begin (some (.start "x" (⟨[], [], 0⟩ : Scripted), true))).moved barrenHost overtaking).server.numbers = [2, 1] := by
  decide +kernel

end History
end RStepper.Adapter
