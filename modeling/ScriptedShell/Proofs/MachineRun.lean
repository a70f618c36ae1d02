import Mathlib.Data.Finset.Card
import ScriptedShell.Proofs.Machine
import ScriptedShell.Proofs.Undisturbed

/-!
The machine and the operations of a session agree. A run of the machine that starts with a piece reaches
the moment at which the piece has ended with the answer and the session that `Machine.meaning` gives, and
what waits for it is the same as at the start.
-/

namespace ScriptedShell

def Session.busyBridges (session : Session) : Finset Nat :=
  (Finset.range session.bridges.length).filter fun index => (session.bridge index).busy

/-- How many more functions and uses of bridges fit into those that run. -/
def Session.room (session : Session) : Nat :=
  (session.shell.settings.maxCallDepth.toNat - session.shell.depth)
    + (session.bridges.length - session.busyBridges.card)

namespace Session

theorem busyBridges_card_le (session : Session) :
    session.busyBridges.card ≤ session.bridges.length := by
  have bound := Finset.card_filter_le (Finset.range session.bridges.length)
    fun index => (session.bridge index).busy
  rwa [Finset.card_range] at bound

theorem room_lt_nestingBound (session : Session) : session.room < session.nestingBound := by
  unfold room nestingBound
  omega

theorem busyBridges_eq_of_undisturbed {owner : Option Nat} {before after : Session}
    (undisturbed : before.Undisturbed owner after) : after.busyBridges = before.busyBridges := by
  unfold busyBridges
  rw [undisturbed.count]
  apply Finset.filter_congr
  intro index _
  rw [(undisturbed.bridges index).busy]

theorem room_eq_of_undisturbed {owner : Option Nat} {before after : Session}
    (undisturbed : before.Undisturbed owner after) : after.room = before.room := by
  unfold room
  rw [busyBridges_eq_of_undisturbed undisturbed, undisturbed.count, undisturbed.shell.settings,
    undisturbed.shell.depth]

theorem busyBridges_occupied {session : Session} {index : Nat}
    (bound : index < session.bridges.length) :
    (session.occupied index).busyBridges = insert index session.busyBridges := by
  have count : (session.occupied index).bridges.length = session.bridges.length :=
    session.changeBridge_length index _
  ext other
  simp only [busyBridges, count, Finset.mem_insert, Finset.mem_filter, Finset.mem_range]
  by_cases same : other = index
  · subst same
    simp [occupied, bridge_changeBridge_self _ bound, bound]
  · simp [occupied, bridge_changeBridge_of_ne session _ same, same]

theorem room_occupied {session : Session} {index : Nat} {engine : Script.Engine}
    (present : (session.bridge index).engine = some engine)
    (idle : (session.bridge index).busy = false) :
    (session.occupied index).room + 1 = session.room := by
  have bound := bound_of_engine present
  have count : (session.occupied index).bridges.length = session.bridges.length :=
    session.changeBridge_length index _
  have fresh : index ∉ session.busyBridges := by
    simp [busyBridges, idle]
  have all : (insert index session.busyBridges).card ≤ session.bridges.length := by
    have := (session.occupied index).busyBridges_card_le
    rwa [busyBridges_occupied bound, count] at this
  rw [Finset.card_insert_of_notMem fresh] at all
  have occupied : (session.occupied index).room =
      (session.shell.settings.maxCallDepth.toNat - session.shell.depth)
        + (session.bridges.length - (session.busyBridges.card + 1)) := by
    rw [room, busyBridges_occupied bound, Finset.card_insert_of_notMem fresh, count]
    rfl
  rw [occupied, room]
  omega

theorem room_enterFunction {session : Session} (arguments : List String)
    (free : session.shell.depth < session.shell.settings.maxCallDepth.toNat) :
    room { session with shell := session.shell.enterFunction arguments } + 1 = session.room := by
  have entered : room { session with shell := session.shell.enterFunction arguments } =
      (session.shell.settings.maxCallDepth.toNat - (session.shell.depth + 1))
        + (session.bridges.length - session.busyBridges.card) := rfl
  rw [entered, room]
  omega

end Session

namespace Script.Dialogue

theorem conduct_map {m : Type → Type} [Monad m] [LawfulMonad m] {α β : Type}
    (answer : Engine → (request : HostRequest) → m (request.Reply × Engine)) (f : α → β)
    (dialogue : Dialogue α) : (dialogue.map f).conduct answer = f <$> dialogue.conduct answer := by
  induction dialogue with
  | done result => simp [map, Dialogue.bind, conduct]
  | ask engine request next ih =>
      simp only [map, Dialogue.bind, conduct, map_bind] at ih ⊢
      congr 1
      funext reply
      exact ih reply.1 reply.2

end Script.Dialogue

namespace Machine

variable {nested : Nested} {limit : Nat}

/-- The machine runs commands as a given way to run them does, as long as there is less room than a
limit. -/
def Simulates [Script.Language] (limit : Nat) (nested : Nested) : Prop :=
  ∀ (command : Command) (waiting : Waiting .command) (session : Session), session.room < limit →
    Reaches ⟨.command command, waiting, session⟩ (waiting.await (nested command) session)

def meaning [Script.Language] (nested : Nested) : {stage : Stage} → Control stage → Run stage.Answer
  | _, .lines number lines => do
    Session.runLines number lines
    let session ← get
    return session.shell.lastStatus
  | _, .line number line => Session.runNumbered number line
  | _, .command command => nested command
  | _, .words line words => Execution.runWords nested line words
  | _, .bridge index words => Bridge.runWords nested index words
  | _, .request index request => Bridge.perform nested index request
  | _, .script index talk => Bridge.converse nested index talk
  | _, .answer answer => pure answer

theorem Reaches.single [Script.Language] {config next : Config} (stepped : step config = some next) :
    Reaches config next :=
  Relation.ReflTransGen.single stepped

theorem Reaches.first [Script.Language] {config next last : Config} (stepped : step config = some next)
    (later : Reaches next last) : Reaches config last :=
  Relation.ReflTransGen.head stepped later

theorem Reaches.then [Script.Language] {first second third : Config} (left : Reaches first second)
    (right : Reaches second third) : Reaches first third :=
  Relation.ReflTransGen.trans left right

theorem room_stored {session : Session} {index : Nat} (bound : index < session.bridges.length)
    (engine : Script.Engine) : (session.stored index engine).room = session.room :=
  Session.room_eq_of_undisturbed (Bridge.stored_undisturbed bound engine)

theorem reaches_answer [Script.Language] (simulates : Simulates limit nested) {index : Nat}
    (waiting : Waiting .request) {session : Session} (bound : index < session.bridges.length)
    (room : session.room < limit) (engine : Script.Engine) (request : Script.HostRequest)
    (next : request.Reply → Script.Engine → Talk) :
    let answered := (Bridge.answer nested index engine request).result session
    Reaches ⟨.script index (.ask engine request next), waiting, session⟩
      ⟨.script index (next answered.1 answered.2), waiting,
        (Bridge.answer nested index engine request).after session⟩ := by
  cases request with
  | call words =>
      let stored := session.stored index engine
      cases read : Bridge.commandOfTexts (stored.bridge index).shape words with
      | error reply =>
          have resumed : resume index (.ask engine (.call words) next) waiting session =
              ⟨.script index (next reply (stored.engine index)), waiting, stored⟩ := by
            simp only [resume, stored, read]
          simp only [Run.result, Run.after, Bridge.answer_call_error read]
          exact .single (congrArg some resumed)
      | ok command =>
          have resumed : resume index (.ask engine (.call words) next) waiting session =
              ⟨.command command, .script index next waiting, stored⟩ := by
            simp only [resume, stored, read]
          simp only [Run.result, Run.after, Bridge.answer_call_ok read]
          refine .first (congrArg some resumed) ?_
          refine (simulates command _ stored ?_).then (.single rfl)
          rwa [room_stored bound]
  | presence => exact .single rfl
  | register name => exact .single rfl
  | getVariable name => exact .single rfl
  | setVariable name value => exact .single rfl
  | environment => exact .single rfl
  | print line => exact .single rfl
  | log level line => exact .single rfl

theorem reaches_script [Script.Language] (keeps : nested.Keeps) (simulates : Simulates limit nested)
    {index : Nat} (talk : Talk) (waiting : Waiting .request) {session : Session}
    (bound : index < session.bridges.length) (room : session.room < limit) :
    Reaches ⟨.script index talk, waiting, session⟩
      (waiting.await (Bridge.converse nested index talk) session) := by
  induction talk generalizing session with
  | done ended => exact .single rfl
  | ask engine request next ih =>
      have asked := Bridge.answer_keeps keeps bound engine request
      refine (reaches_answer simulates waiting bound room engine request next).then ?_
      refine ih _ _ (asked.count ▸ bound) ?_
      rwa [Session.room_eq_of_undisturbed asked]

def scriptRun (nested : Nested) (index : Nat)
    (talk : Script.Engine → Session → Talk × Session) : Run (Except Fault Status) :=
  fun session =>
    match Bridge.enter index session with
    | (.error fault, session) => (.error fault, session)
    | (.ok engine, session) =>
      let (talk, session) := talk engine session
      Bridge.converse nested index talk session

theorem converse_talkOf {α : Type} (index : Nat) (f : Except Fault α → Except Fault Status)
    (dialogue : Script.Dialogue (Except Fault α × Script.Engine)) :
    Bridge.converse nested index (talkOf f dialogue) =
      f <$> Bridge.converse nested index dialogue := by
  simp only [Bridge.converse, talkOf, Script.Dialogue.conduct_map, bind_map_left, map_bind]
  rfl

theorem call_eq_scriptRun [Script.Language] (index : Nat) (function : String) (words : List Word) :
    Bridge.call nested index function words =
      scriptRun nested index (calling index function words) := by
  funext session
  rcases Bridge.enter_cases index session with ⟨fault, same⟩ | ⟨engine, present, idle, same⟩
  · rw [Bridge.call, Run.bind_of_eq session same, scriptRun, same]
    rfl
  · rw [Bridge.call, Run.bind_of_eq session same, scriptRun, same]
    simp only [calling, converse_talkOf]
    rfl

theorem load_eq_scriptRun [Script.Language] {index : Nat} {session started : Session} (path : String)
    (same : Bridge.start index session = (.ok (), started)) :
    Bridge.perform nested index (.load path) session =
      scriptRun nested index (loading path) started := by
  rw [Bridge.perform, Bridge.load, bind_assoc, Run.bind_of_eq session same]
  simp only [bind_assoc]
  rcases Bridge.enter_cases index started with ⟨fault, same⟩ | ⟨engine, present, idle, same⟩
  · rw [Run.bind_of_eq started same, scriptRun, same]
    rfl
  · rw [Run.bind_of_eq started same, scriptRun, same]
    simp only [loading, converse_talkOf]
    rfl

def Quiet (talk : Script.Engine → Session → Talk × Session) : Prop :=
  ∀ engine session, (talk engine session).2.shell = session.shell ∧
    (talk engine session).2.bridges = session.bridges

theorem loading_quiet [Script.Language] (path : String) : Quiet (loading path) :=
  fun _ _ => ⟨rfl, rfl⟩

theorem calling_quiet [Script.Library] (index : Nat) (function : String) (words : List Word) :
    Quiet (calling index function words) :=
  fun _ _ => ⟨rfl, rfl⟩

theorem room_congr {left right : Session} (shell : left.shell = right.shell)
    (bridges : left.bridges = right.bridges) : left.room = right.room := by
  cases left
  cases right
  cases shell
  cases bridges
  rfl

theorem room_eq_of_quiet {talk : Script.Engine → Session → Talk × Session} (quiet : Quiet talk)
    (engine : Script.Engine) (session : Session) :
    (talk engine session).2.room = session.room :=
  room_congr (quiet engine session).1 (quiet engine session).2

theorem reaches_startScript [Script.Language] (keeps : nested.Keeps) (simulates : Simulates limit nested)
    {talk : Script.Engine → Session → Talk × Session} (quiet : Quiet talk) (index : Nat)
    (waiting : Waiting .request) {session : Session} (room : session.room < limit + 1) :
    Reaches (startScript index talk waiting session)
      (waiting.await (scriptRun nested index talk) session) := by
  unfold startScript Waiting.await Run.result Run.after scriptRun
  rcases Bridge.enter_cases index session with ⟨fault, same⟩ | ⟨engine, present, idle, same⟩
  · rw [same]
    exact .refl
  · rw [same]
    have bound := Session.bound_of_engine present
    have less := Session.room_occupied present idle
    refine reaches_script keeps simulates _ waiting ?_ ?_
    · rw [(quiet engine _).2, Session.occupied, Session.changeBridge_length]
      exact bound
    · rw [room_eq_of_quiet quiet]
      omega

theorem reaches_request [Script.Language] (keeps : nested.Keeps) (simulates : Simulates limit nested)
    (index : Nat) (request : BridgeRequest) (waiting : Waiting .request) {session : Session}
    (room : session.room < limit + 1) :
    Reaches ⟨.request index request, waiting, session⟩
      (waiting.await (Bridge.perform nested index request) session) := by
  cases request with
  | start => exact .single rfl
  | load path =>
      refine .first rfl ?_
      have kept := Bridge.start_keeps index session
      simp only [startRequest, Waiting.await, Run.result, Run.after] at kept ⊢
      cases same : Bridge.start index session with
      | mk result started =>
          rw [same] at kept
          cases result with
          | error fault =>
              rw [Bridge.perform, Bridge.load, bind_assoc, Run.bind_of_eq session same]
              exact .refl
          | ok done =>
              rw [load_eq_scriptRun path same]
              refine reaches_startScript keeps simulates (loading_quiet path) index waiting ?_
              rwa [Session.room_eq_of_undisturbed kept]
  | call function words =>
      refine .first rfl ?_
      rw [Bridge.perform, call_eq_scriptRun]
      exact reaches_startScript keeps simulates (calling_quiet index function words) index waiting room

theorem reaches_bridge [Script.Language] (keeps : nested.Keeps) (simulates : Simulates limit nested)
    (index : Nat) (words : List Word) (waiting : Waiting .words) {session : Session}
    (room : session.room < limit + 1) :
    Reaches ⟨.bridge index words, waiting, session⟩
      (waiting.await (Bridge.runWords nested index words) session) := by
  cases read : BridgeRequest.ofWords words with
  | error fault =>
      have started : startBridge index words waiting session =
          (Waiting.bridge index waiting).hear (.error fault) session := by
        simp only [startBridge, read]
      refine .first (congrArg some started) ?_
      simp only [Bridge.runWords, read]
      exact .single rfl
  | ok request =>
      have started : startBridge index words waiting session =
          ⟨.request index request, .bridge index waiting, session⟩ := by
        simp only [startBridge, read]
      refine .first (congrArg some started) ?_
      simp only [Bridge.runWords, read]
      exact (reaches_request keeps simulates index request _ room).then (.single rfl)

theorem reaches_function [Script.Language] (simulates : Simulates limit nested) (name : String)
    (body : Command) (arguments : List String) (waiting : Waiting .words) {session : Session}
    (room : session.room < limit + 1) :
    Reaches (startFunction name body arguments waiting session)
      (waiting.await (Execution.callFunction nested name body arguments) session) := by
  unfold startFunction Waiting.await Run.result Run.after Execution.callFunction
  rw [Run.get_bind]
  split
  · exact .refl
  · rename_i free
    have less := Session.room_enterFunction arguments (Nat.lt_of_not_le free)
    exact (simulates body (.function waiting) _ (by omega)).then (.single rfl)

theorem reaches_fields [Script.Language] (keeps : nested.Keeps) (simulates : Simulates limit nested)
    (line : Int32) (fields : List String) (waiting : Waiting .words) {session : Session}
    (room : session.room < limit + 1) :
    Reaches (startFields line fields waiting session)
      (waiting.await (Execution.runFields nested line fields) session) := by
  cases fields with
  | nil => exact .refl
  | cons name arguments =>
      simp only [startFields, Execution.runFields, Waiting.await, Run.result, Run.after]
      rw [Run.get_bind]
      cases session.shell.functions.find? name with
      | some body => exact reaches_function simulates name body arguments waiting room
      | none =>
          cases session.shell.extensions.find? name with
          | some extension =>
              cases extension with
              | bridge index => exact reaches_bridge keeps simulates index _ waiting room
              | recorder name status => exact .refl
          | none =>
              cases Execution.runInternal? name arguments with
              | some run => exact .refl
              | none => exact .refl

theorem reaches_words [Script.Language] (keeps : nested.Keeps) (simulates : Simulates limit nested)
    (line : Int32) (words : List Word) (waiting : Waiting .words) {session : Session}
    (room : session.room < limit + 1) :
    Reaches ⟨.words line words, waiting, session⟩
      (waiting.await (Execution.runWords nested line words) session) := by
  refine .first rfl ?_
  simp only [startWords, Execution.runWords, Waiting.await, Run.result, Run.after]
  cases Shell.assignments? words with
  | some assignments => exact .refl
  | none =>
      simp only [Run.get_bind]
      exact reaches_fields keeps simulates line _ waiting room

theorem reaches_command [Script.Language] (keeps : nested.Keeps) (simulates : Simulates limit nested)
    (command : Command) (waiting : Waiting .command) {session : Session}
    (room : session.room < limit + 1) :
    Reaches ⟨.command command, waiting, session⟩
      (waiting.await (Execution.executeWith nested command) session) := by
  refine .first rfl ?_
  simp only [startCommand, Execution.executeWith, Waiting.await, Run.result, Run.after]
  rw [Run.get_bind]
  cases Execution.refusal? session.shell command with
  | some complaint => exact .refl
  | none => exact (reaches_words keeps simulates _ _ _ room).then (.single rfl)

/-- A bound that exceeds the room left is no bound. -/
theorem simulates_execute [Script.Language] (bound : Nat) : Simulates bound (execute bound) := by
  -- A nested command has less room than the one around it, so each level of the bound pays for one.
  induction bound with
  | zero =>
      intro command waiting session room
      omega
  | succ bound ih =>
      intro command waiting session room
      exact reaches_command (execute_keeps bound) ih command waiting room

theorem simulates_nested [Script.Language] (limit : Nat) : Simulates limit Session.nested :=
  fun command waiting session _ =>
    simulates_execute session.nestingBound command waiting session session.room_lt_nestingBound

theorem reaches_line [Script.Language] (number : Int32) (line : String) (waiting : Waiting .command)
    (session : Session) :
    Reaches ⟨.line number line, waiting, session⟩
      (waiting.await (Session.runNumbered number line) session) := by
  refine .first rfl ?_
  simp only [startLine, Session.runNumbered, Waiting.await, Run.result, Run.after]
  rw [Run.get_bind]
  cases Session.readLine session.shell number line with
  | nothing => exact .refl
  | refused complaint => exact .refl
  | command command =>
      exact simulates_nested (session.room + 1) command waiting session (Nat.lt_succ_self _)

theorem reaches_lines [Script.Language] (number : Nat) (lines : List String) (waiting : Waiting .command)
    (session : Session) :
    Reaches ⟨.lines number lines, waiting, session⟩
      (waiting.await (meaning Session.nested (.lines number lines)) session) := by
  induction lines generalizing number session with
  | nil => exact .single rfl
  | cons line rest ih =>
      refine .first rfl ?_
      refine (reaches_line (Session.lineNumber number) line _ session).then ?_
      exact .first rfl (ih (number + 1) _)

end Machine

end ScriptedShell
