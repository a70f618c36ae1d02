import ScriptedShell.Session.Operation

/-!
What no run disturbs. `Session.Undisturbed` relates the sessions before and after a run: the positional
frames and the tables that only the owner of the shell changes are the same, a bridge is busy after the
run if it was busy before, and a busy bridge is not touched at all. `execute_keeps` says so of every
command, however deeply scripts and functions nest in it.
-/

namespace ScriptedShell

def Event.callOf? (index : Nat) : Event → Option (String × List String)
  | .scriptCalled bridge function arguments =>
    if bridge = index then some (function, arguments) else none
  | _ => none

def Session.callsOf (session : Session) (index : Nat) : List (String × List String) :=
  session.events.toList.filterMap (Event.callOf? index)

structure Shell.Undisturbed (before after : Shell) : Prop where
  frames : after.frames = before.frames
  depth : after.depth = before.depth
  settings : after.settings = before.settings
  shape : after.shape = before.shape
  extensions : after.extensions = before.extensions

/-- What a run leaves alone in every bridge. What is set once stays set. -/
structure Bridge.Undisturbed (before after : Bridge) : Prop where
  settings : after.settings = before.settings
  busy : after.busy = before.busy
  shape : before.shape.isSome → after.shape = before.shape
  initialized : before.isInitialized → after.isInitialized

/-- What a run leaves alone. A run that is part of a script may store the engine of the script's own
bridge, the owner. -/
structure Session.Undisturbed (owner : Option Nat) (before after : Session) : Prop where
  shell : before.shell.Undisturbed after.shell
  shellPresent : after.shellPresent = before.shellPresent
  files : after.files = before.files
  count : after.bridges.length = before.bridges.length
  bridges : ∀ index, (before.bridge index).Undisturbed (after.bridge index)
  untouched : ∀ index, some index ≠ owner → (before.bridge index).busy →
    (before.bridge index).isInitialized → after.bridge index = before.bridge index
  calls : ∀ index, (before.bridge index).busy → after.callsOf index = before.callsOf index

theorem Shell.Undisturbed.refl (shell : Shell) : shell.Undisturbed shell :=
  ⟨rfl, rfl, rfl, rfl, rfl⟩

theorem Shell.Undisturbed.trans {first second third : Shell} (left : first.Undisturbed second)
    (right : second.Undisturbed third) : first.Undisturbed third where
  frames := right.frames.trans left.frames
  depth := right.depth.trans left.depth
  settings := right.settings.trans left.settings
  shape := right.shape.trans left.shape
  extensions := right.extensions.trans left.extensions

theorem Bridge.Undisturbed.refl (bridge : Bridge) : bridge.Undisturbed bridge :=
  ⟨rfl, rfl, fun _ => rfl, id⟩

theorem Bridge.Undisturbed.trans {first second third : Bridge} (left : first.Undisturbed second)
    (right : second.Undisturbed third) : first.Undisturbed third where
  settings := right.settings.trans left.settings
  busy := right.busy.trans left.busy
  shape := by
    intro known
    have same := left.shape known
    rw [right.shape (same ▸ known), same]
  initialized := fun started => right.initialized (left.initialized started)

namespace Session.Undisturbed

variable {owner : Option Nat} {before after : Session}

theorem refl (owner : Option Nat) (session : Session) : session.Undisturbed owner session where
  shell := .refl _
  shellPresent := rfl
  files := rfl
  count := rfl
  bridges := fun _ => .refl _
  untouched := fun _ _ _ _ => rfl
  calls := fun _ _ => rfl

theorem trans {first second third : Session} (left : first.Undisturbed owner second)
    (right : second.Undisturbed owner third) : first.Undisturbed owner third where
  shell := left.shell.trans right.shell
  shellPresent := right.shellPresent.trans left.shellPresent
  files := right.files.trans left.files
  count := right.count.trans left.count
  bridges := fun index => (left.bridges index).trans (right.bridges index)
  untouched := by
    intro index other busy started
    have same := left.untouched index other busy started
    rw [right.untouched index other (same ▸ busy) (same ▸ started), same]
  calls := by
    intro index busy
    rw [right.calls index ((left.bridges index).busy ▸ busy), left.calls index busy]

theorem weaken (undisturbed : before.Undisturbed none after) (owner : Option Nat) :
    before.Undisturbed owner after :=
  { undisturbed with
    untouched := fun index _ busy started => undisturbed.untouched index nofun busy started }

theorem emit (session : Session) {event : Event}
    (silent : ∀ index, (session.bridge index).busy → event.callOf? index = none) :
    session.Undisturbed owner { session with events := session.events.push event } :=
  { Session.Undisturbed.refl owner session with
    calls := by
      intro index busy
      simp [Session.callsOf, silent index busy] }

theorem changeShell (session : Session) {shell : Shell}
    (undisturbed : session.shell.Undisturbed shell) :
    session.Undisturbed owner { session with shell } :=
  { Session.Undisturbed.refl owner session with shell := undisturbed }

end Session.Undisturbed

namespace Run

variable {α β : Type} {owner : Option Nat}

def Keeps (owner : Option Nat) (run : Run α) : Prop :=
  ∀ session : Session, session.Undisturbed owner (run.after session)

theorem Keeps.pure (value : α) : Keeps owner (Pure.pure value : Run α) :=
  fun session => .refl owner session

theorem Keeps.bind {run : Run α} {next : α → Run β} (first : Keeps owner run)
    (rest : ∀ value, Keeps owner (next value)) : Keeps owner (run >>= next) :=
  fun session => (first session).trans (rest _ _)

theorem Keeps.look {next : Session → Run α} (rest : ∀ session, Keeps owner (next session)) :
    Keeps owner (get >>= next) :=
  fun session => rest session session

theorem Keeps.emit {event : Event} (silent : ∀ index, event.callOf? index = none) :
    Keeps owner (Run.emit event) :=
  fun session => .emit session fun index _ => silent index

theorem Keeps.emitText {event : String → Event} (text : String)
    (silent : ∀ index, (event text).callOf? index = none) :
    Keeps owner (Run.emitText event text) := by
  unfold Run.emitText
  split
  · exact .pure ()
  · exact .emit silent

theorem Keeps.changeShell {f : Shell → Shell} (undisturbed : ∀ shell : Shell, shell.Undisturbed (f shell)) :
    Keeps owner (Run.changeShell f) :=
  fun session => .changeShell session (undisturbed session.shell)

end Run

open Run

theorem Shell.assign_undisturbed (shell : Shell) (name value : String) :
    shell.Undisturbed (shell.assign name value) :=
  ⟨rfl, rfl, rfl, rfl, rfl⟩

theorem Shell.assignAll_undisturbed (assignments : List (String × String)) (shell : Shell) :
    shell.Undisturbed (shell.assignAll assignments) := by
  induction assignments generalizing shell with
  | nil => exact .refl shell
  | cons first rest ih =>
      exact (shell.assign_undisturbed first.1 (shell.expandText first.2)).trans (ih _)

theorem Shell.registerFunction_undisturbed {shell next : Shell} {shape : Option RecordShape}
    {builtinName name : String}
    (registered : shell.registerFunction shape builtinName name = .ok next) :
    shell.Undisturbed next := by
  simp only [Shell.registerFunction] at registered
  split at registered
  · contradiction
  · split at registered
    · cases registered
      exact ⟨rfl, rfl, rfl, rfl, rfl⟩
    · contradiction

namespace Execution

theorem finish_keeps (status : Status) : Keeps none (finish status) :=
  .bind (.changeShell fun _ => ⟨rfl, rfl, rfl, rfl, rfl⟩) fun _ => .pure status

theorem refuse_keeps (complaint : String) : Keeps none (refuse complaint) :=
  .bind (.emit fun _ => rfl) fun _ => finish_keeps .failure

theorem refuseCall_keeps (name : String) (limit : UInt64) :
    Keeps none (refuseCall name limit) :=
  .bind (.emit fun _ => rfl) fun _ => .pure _

theorem record_keeps (name : String) (status : Status) (words : List Word) :
    Keeps none (record name status words) :=
  .bind (.emit fun _ => rfl) fun _ => .pure _

theorem runInternal?_keeps {name : String} {arguments : List String} {run : Run Status}
    (found : runInternal? name arguments = some run) : Keeps none run := by
  simp only [runInternal?] at found
  split at found
  · cases found
    exact .pure _
  · split at found
    · cases found
      exact .pure _
    · split at found
      · cases found
        exact .bind (.emit fun _ => rfl) fun _ => .pure _
      · contradiction

theorem runProgram_keeps (line : Int32) (name : String) (arguments : List String) :
    Keeps none (runProgram line name arguments) := by
  refine .look fun session => ?_
  split
  · refine .bind (.emit fun _ => rfl) fun _ => ?_
    refine .bind (.emitText _ fun _ => rfl) fun _ => ?_
    exact .bind (.emitText _ fun _ => rfl) fun _ => .pure _
  · exact .bind (.emit fun _ => rfl) fun _ => .pure _

end Execution

def Nested.Keeps (nested : Nested) : Prop :=
  ∀ command, Run.Keeps none (nested command)

namespace Bridge

theorem detectShape_eq_of_isSome {session : Session} {bridge : Bridge} {shape : RecordShape}
    (detected : detectShape session bridge = .ok shape) (known : bridge.shape.isSome) :
    some shape = bridge.shape := by
  obtain ⟨own, same⟩ := Option.isSome_iff_exists.mp known
  simp only [detectShape, same, Option.getD_some] at detected
  grind

theorem changeBridge_undisturbed {owner : Option Nat} {session : Session} {index : Nat}
    {f : Bridge → Bridge} (bound : index < session.bridges.length)
    (undisturbed : (session.bridge index).Undisturbed (f (session.bridge index)))
    (free : some index = owner ∨ (session.bridge index).isInitialized = false) :
    session.Undisturbed owner (session.changeBridge index f) :=
  { Session.Undisturbed.refl owner session with
    count := session.changeBridge_length index f
    bridges := by
      intro other
      by_cases same : other = index
      · subst same
        rw [Session.bridge_changeBridge_self f bound]
        exact undisturbed
      · rw [Session.bridge_changeBridge_of_ne session f same]
        exact .refl _
    untouched := by
      intro other notOwner _ started
      have different : other ≠ index := by
        rintro rfl
        rcases free with owned | fresh
        · exact notOwner owned
        · simp [fresh] at started
      exact Session.bridge_changeBridge_of_ne session f different }

theorem start_keeps [Script.Language] (index : Nat) : Keeps none (start index) := by
  intro session
  unfold start
  simp only [after_bind, result_get, after_get]
  split
  · exact .refl none session
  · rename_i bridge found
    have own : session.bridge index = bridge := Session.bridge_eq_of_getElem? found
    have bound : index < session.bridges.length := (List.getElem?_eq_some_iff.mp found).1
    split
    · exact .refl none session
    · rename_i fresh
      split
      · exact .refl none session
      · rename_i shape detected
        have shaped : session.Undisturbed none
            (session.changeBridge index fun bridge => { bridge with shape := some shape }) := by
          refine changeBridge_undisturbed bound ⟨rfl, rfl, ?_, id⟩ (.inr (by simpa [own] using fresh))
          rw [own]
          exact detectShape_eq_of_isSome detected
        split
        · exact shaped
        · refine shaped.trans (changeBridge_undisturbed ?_ ⟨rfl, rfl, fun _ => rfl, ?_⟩ (.inr ?_))
          · simpa [Session.changeBridge_length] using bound
          · simp [isInitialized]
          · rw [Session.bridge_changeBridge_self _ bound]
            simpa [own, isInitialized] using fresh

variable {nested : Nested}

theorem invoke_keeps (nestedKeeps : nested.Keeps) (shape : Option RecordShape)
    (words : List String) : Keeps none (invoke nested shape words) := by
  unfold invoke
  split
  · exact .pure _
  · exact .bind (nestedKeeps _) fun _ => .pure _

theorem reply_keeps (nestedKeeps : nested.Keeps) (bridge : Bridge)
    (request : Script.HostRequest) : Keeps none (reply nested bridge request) := by
  cases request with
  | presence => exact .look fun _ => .pure _
  | register name =>
      intro session
      simp only [reply, after_bind, result_get, after_get]
      split
      · rename_i registered
        exact .changeShell session (Shell.registerFunction_undisturbed registered)
      · exact .refl none session
  | getVariable name => exact .look fun _ => .pure _
  | setVariable name value => exact .changeShell fun shell => shell.assign_undisturbed name value
  | environment => exact .look fun _ => .pure _
  | call words => exact invoke_keeps nestedKeeps bridge.shape words
  | print line => exact .emit fun _ => rfl
  | log level line => exact .emit fun _ => rfl

theorem stored_undisturbed {session : Session} {index : Nat}
    (bound : index < session.bridges.length) (engine : Script.Engine) :
    session.Undisturbed (some index) (session.stored index engine) :=
  changeBridge_undisturbed bound ⟨rfl, rfl, fun _ => rfl, fun _ => rfl⟩ (.inl rfl)

theorem answer_keeps (nestedKeeps : nested.Keeps) {session : Session} {index : Nat}
    (bound : index < session.bridges.length) (engine : Script.Engine)
    (request : Script.HostRequest) :
    session.Undisturbed (some index) ((answer nested index engine request).after session) :=
  (stored_undisturbed bound engine).trans ((reply_keeps nestedKeeps _ request _).weaken _)

theorem conduct_keeps {α : Type} (nestedKeeps : nested.Keeps) {session : Session} {index : Nat}
    (bound : index < session.bridges.length) (dialogue : Script.Dialogue α) :
    session.Undisturbed (some index)
      (after (dialogue.conduct (answer nested index)) session) := by
  induction dialogue generalizing session with
  | done result => exact .refl _ session
  | ask engine request next ih =>
      have asked := answer_keeps nestedKeeps bound engine request
      exact asked.trans (ih _ _ (asked.count ▸ bound))

theorem enter_bind_keeps {α : Type} {index : Nat}
    {next : Except Fault Script.Engine → Run α}
    (refused : ∀ fault, Keeps none (next (.error fault)))
    (taken : ∀ engine (session : Session), (session.bridge index).engine = some engine →
      (session.bridge index).busy = false →
      session.Undisturbed none ((next (.ok engine)).after
        (session.occupied index))) :
    Keeps none (Bridge.enter index >>= next) := by
  intro session
  rcases enter_cases index session with ⟨fault, same⟩ | ⟨engine, present, idle, same⟩
  · rw [after, bind_of_eq session same]
    exact refused fault session
  · rw [after, bind_of_eq session same]
    exact taken engine session present idle

/-- A use of an engine disturbs nothing, as seen from before the engine was taken to after it was put
back. -/
theorem converse_keeps {α : Type} (nestedKeeps : nested.Keeps)
    (session : Session) {index : Nat} {engine : Script.Engine}
    (present : (session.bridge index).engine = some engine)
    (idle : (session.bridge index).busy = false)
    (dialogue : Script.Dialogue (Except Fault α × Script.Engine)) :
    session.Undisturbed none ((converse nested index dialogue).after (session.occupied index)) := by
  have bound : index < (session.occupied index).bridges.length := by
    rw [Session.occupied, Session.changeBridge_length]
    exact Session.bound_of_engine present
  have own : (session.occupied index).bridge index = { session.bridge index with busy := true } :=
    Session.bridge_changeBridge_self _ (Session.bound_of_engine present)
  have others : ∀ other, other ≠ index →
      (session.occupied index).bridge other = session.bridge other :=
    fun other different => Session.bridge_changeBridge_of_ne session _ different
  have within := conduct_keeps nestedKeeps bound dialogue
  let conducted := after (dialogue.conduct (answer nested index)) (session.occupied index)
  let last := (Run.result (dialogue.conduct (answer nested index)) (session.occupied index)).2
  have put : (conducted.released index last).bridge index =
      { conducted.bridge index with engine := some last, busy := false } :=
    Session.bridge_changeBridge_self _ (within.count ▸ bound)
  change session.Undisturbed none (conducted.released index last)
  exact
    { shell := within.shell
      shellPresent := within.shellPresent
      files := within.files
      count := by
        rw [Session.released, Session.changeBridge_length, within.count, Session.occupied,
          Session.changeBridge_length]
      bridges := by
        intro other
        by_cases same : other = index
        · subst same
          have kept := within.bridges other
          rw [own] at kept
          rw [put]
          exact ⟨kept.settings, idle.symm, kept.shape, fun _ => rfl⟩
        · rw [Session.released, Session.bridge_changeBridge_of_ne _ _ same, ← others other same]
          exact within.bridges other
      untouched := by
        intro other _ busy started
        have different : other ≠ index := by
          rintro rfl
          simp [idle] at busy
        rw [Session.released, Session.bridge_changeBridge_of_ne _ _ different,
          ← others other different]
        rw [← others other different] at busy started
        exact within.untouched other (by simpa using different) busy started
      calls := by
        intro other busy
        have different : other ≠ index := by
          rintro rfl
          simp [idle] at busy
        exact within.calls other (others other different ▸ busy) }

theorem load_keeps [Script.Language] (nestedKeeps : nested.Keeps) (index : Nat)
    (path : String) : Keeps none (load nested index path) := by
  refine .bind (start_keeps index) fun started => ?_
  split
  · exact .pure _
  · refine enter_bind_keeps (fun _ => .pure _) fun engine session present idle => ?_
    exact converse_keeps nestedKeeps session present idle _

theorem call_keeps [Script.Language] (nestedKeeps : nested.Keeps) (index : Nat)
    (function : String) (words : List Word) : Keeps none (call nested index function words) := by
  refine enter_bind_keeps (fun _ => .pure _) fun engine session present idle => ?_
  let event := Event.scriptCalled index function (scriptArguments words)
  let told : Session := { session with events := session.events.push event }
  have emitted : session.Undisturbed none told := by
    refine .emit session fun other busy => ?_
    have different : index ≠ other := by
      rintro rfl
      simp [idle] at busy
    simp [event, Event.callOf?, different]
  refine emitted.trans ?_
  exact converse_keeps nestedKeeps told present idle _

theorem perform_keeps [Script.Language] (nestedKeeps : nested.Keeps) (index : Nat)
    (request : BridgeRequest) : Keeps none (perform nested index request) := by
  cases request with
  | start => exact .bind (start_keeps index) fun _ => .pure _
  | load path => exact .bind (load_keeps nestedKeeps index path) fun _ => .pure _
  | call function arguments => exact call_keeps nestedKeeps index function arguments

theorem report_keeps (index : Nat) (result : Except Fault Status) :
    Keeps none (report index result) := by
  cases result with
  | ok status => exact .pure _
  | error fault => exact .look fun _ => .bind (.emit fun _ => rfl) fun _ => .pure _

theorem runWords_keeps [Script.Language] (nestedKeeps : nested.Keeps) (index : Nat)
    (words : List Word) : Keeps none (runWords nested index words) := by
  unfold runWords
  split
  · exact .bind (.pure _) fun _ => report_keeps index _
  · exact .bind (perform_keeps nestedKeeps index _) fun _ => report_keeps index _

end Bridge

namespace Execution

variable {nested : Nested}

theorem callFunction_keeps (nestedKeeps : nested.Keeps) (name : String) (body : Command)
    (arguments : List String) : Keeps none (callFunction nested name body arguments) := by
  refine .look fun _ => ?_
  split
  · exact refuseCall_keeps name _
  · intro session
    let entered : Session := { session with shell := session.shell.enterFunction arguments }
    have within := nestedKeeps body entered
    exact
      { shell :=
          { frames := congrArg List.tail within.shell.frames
            depth := congrArg (· - 1) within.shell.depth
            settings := within.shell.settings
            shape := within.shell.shape
            extensions := within.shell.extensions }
        shellPresent := within.shellPresent
        files := within.files
        count := within.count
        bridges := within.bridges
        untouched := within.untouched
        calls := within.calls }

theorem runExtension_keeps [Script.Language] (nestedKeeps : nested.Keeps) (words : List Word)
    (extension : Extension) : Keeps none (runExtension nested words extension) := by
  cases extension with
  | bridge index => exact Bridge.runWords_keeps nestedKeeps index words
  | recorder name status => exact record_keeps name status words

theorem runFields_keeps [Script.Language] (nestedKeeps : nested.Keeps) (line : Int32) (fields : List String) :
    Keeps none (runFields nested line fields) := by
  cases fields with
  | nil => exact .pure _
  | cons name arguments =>
      refine .look fun session => ?_
      split
      · exact callFunction_keeps nestedKeeps name _ arguments
      · split
        · exact runExtension_keeps nestedKeeps _ _
        · split
          · rename_i found
            exact runInternal?_keeps found
          · exact runProgram_keeps line name arguments

theorem runWords_keeps [Script.Language] (nestedKeeps : nested.Keeps) (line : Int32) (words : List Word) :
    Keeps none (runWords nested line words) := by
  unfold runWords
  split
  · exact .bind (.changeShell (Shell.assignAll_undisturbed _)) fun _ => .pure _
  · exact .look fun _ => runFields_keeps nestedKeeps line _

theorem executeWith_keeps [Script.Language] (nestedKeeps : nested.Keeps) (command : Command) :
    Keeps none (executeWith nested command) := by
  refine .look fun session => ?_
  split
  · exact refuse_keeps _
  · exact .bind (runWords_keeps nestedKeeps _ _) fun _ => finish_keeps _

end Execution

theorem execute_keeps [Script.Language] (bound : Nat) : Nested.Keeps (execute bound) := by
  induction bound with
  | zero => exact fun _ => .bind (.emit fun _ => rfl) fun _ => .pure _
  | succ bound ih => exact Execution.executeWith_keeps ih

theorem Session.nested_keeps [Script.Language] : Nested.Keeps Session.nested :=
  fun command => .look fun session => execute_keeps session.nestingBound command

end ScriptedShell
