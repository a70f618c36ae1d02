import ScriptedShell.Proofs.Moment
import ScriptedShell.Proofs.VariableHistory

/-!
What a step of a run does to the session. There are few things that any step does, and of these only an
assignment and a script's request to set a variable update the variables.
-/

namespace ScriptedShell

open Machine

/-- What a run does to a session, with the updates of variables among it. -/
inductive Effect : Session → List Update → Session → Prop where
  /-- Something may be told, and a status is kept. -/
  | tell (session : Session) (events : Array Event) (status : Status) :
      Effect session [] { session with shell := session.shell.finish status, events }
  | assign (session : Session) (assignments : List (String × String)) :
      Effect session (session.shell.updatesOf assignments)
        { session with shell := session.shell.assignAll assignments }
  | setVariable (session : Session) (name value : String) :
      Effect session [.assign name value]
        { session with shell := session.shell.assign name value }
  | enterFunction (session : Session) (arguments : List String) :
      Effect session [] { session with shell := session.shell.enterFunction arguments }
  | leaveFunction (session : Session) :
      Effect session [] { session with shell := session.shell.leaveFunction }
  | register {session : Session} {shell : Shell} {shape : Option RecordShape}
      {builtinName name : String}
      (registered : session.shell.registerFunction shape builtinName name = .ok shell) :
      Effect session [] { session with shell }
  | detect {session : Session} {index : Nat} {shape : RecordShape}
      (detected : Bridge.detectShape session (session.bridge index) = .ok shape) :
      Effect session []
        (session.changeBridge index fun bridge => { bridge with shape := some shape })
  /-- The engine of a bridge is put in, taken into use, stored or put back. -/
  | use {session : Session} {index : Nat} {f : Bridge → Bridge}
      (ready : (session.bridge index).isInitialized = true ∨ (session.bridge index).shape.isSome)
      (settings : ∀ bridge, (f bridge).settings = bridge.settings)
      (shape : ∀ bridge, (f bridge).shape = bridge.shape)
      (initialized : ∀ bridge, bridge.isInitialized = true → (f bridge).isInitialized = true) :
      Effect session [] (session.changeBridge index f)
  | trans {first second third : Session} {before after : List Update}
      (earlier : Effect first before second) (later : Effect second after third) :
      Effect first (before ++ after) third

namespace Effect

theorem refl (session : Session) : Effect session [] session :=
  .tell session session.events session.shell.lastStatus

theorem bindings {before after : Session} {updates : List Update}
    (effect : Effect before updates after) :
    after.shell.bindings = before.shell.bindings.update updates := by
  induction effect with
  | assign session assignments => exact session.shell.bindings_assignAll assignments
  | register registered =>
      rw [Shell.registerFunction] at registered
      split at registered
      · contradiction
      · split at registered
        · cases registered
          rfl
        · contradiction
  | trans _ _ earlier later => rw [later, earlier, Variables.update_append]
  | _ => rfl

end Effect

namespace Run

variable {α β : Type}

def Tells (run : Run α) : Prop :=
  ∀ session : Session, Effect session [] (run.after session)

theorem Tells.pure (value : α) : Tells (Pure.pure value : Run α) :=
  fun session => .refl session

theorem Tells.bind {run : Run α} {next : α → Run β} (first : Tells run)
    (rest : ∀ value, Tells (next value)) : Tells (run >>= next) :=
  fun session => .trans (first session) (rest _ _)

theorem Tells.look {next : Session → Run α} (rest : ∀ session, Tells (next session)) :
    Tells (get >>= next) :=
  fun session => rest session session

theorem Tells.emit (event : Event) : Tells (Run.emit event) :=
  fun session => .tell session (session.events.push event) session.shell.lastStatus

theorem Tells.emitText (event : String → Event) (text : String) :
    Tells (Run.emitText event text) := by
  unfold Run.emitText
  split
  · exact .pure ()
  · exact .emit _

end Run

open Run

namespace Execution

theorem finish_tells (status : Status) : Tells (finish status) :=
  fun session => .tell session session.events status

theorem refuse_tells (complaint : String) : Tells (refuse complaint) :=
  .bind (.emit _) fun _ => finish_tells .failure

theorem refuseCall_tells (name : String) (limit : UInt64) : Tells (refuseCall name limit) :=
  .bind (.emit _) fun _ => .pure _

theorem record_tells (name : String) (status : Status) (words : List Word) :
    Tells (record name status words) :=
  .bind (.emit _) fun _ => .pure _

theorem runInternal?_tells {name : String} {arguments : List String} {run : Run Status}
    (found : runInternal? name arguments = some run) : Tells run := by
  simp only [runInternal?] at found
  split at found
  · cases found
    exact .pure _
  · split at found
    · cases found
      exact .pure _
    · split at found
      · cases found
        exact .bind (.emit _) fun _ => .pure _
      · contradiction

theorem runProgram_tells (line : Int32) (name : String) (arguments : List String) :
    Tells (runProgram line name arguments) := by
  refine .look fun session => ?_
  split
  · refine .bind (.emit _) fun _ => .bind (.emitText _ _) fun _ => ?_
    exact .bind (.emitText _ _) fun _ => .pure _
  · exact .bind (.emit _) fun _ => .pure _

end Execution

theorem Bridge.report_tells (index : Nat) (result : Except Fault Status) :
    Tells (report index result) := by
  cases result with
  | ok status => exact .pure _
  | error fault => exact .look fun _ => .bind (.emit _) fun _ => .pure _

theorem Bridge.start_effect [Script.Language] (index : Nat) (session : Session) :
    Effect session [] ((start index).after session) := by
  unfold start
  simp only [after_bind, result_get, after_get]
  split
  · exact .refl session
  · rename_i bridge found
    have own : session.bridge index = bridge := Session.bridge_eq_of_getElem? found
    have bound : index < session.bridges.length := (List.getElem?_eq_some_iff.mp found).1
    split
    · exact .refl session
    · split
      · exact .refl session
      · rename_i shape detected
        have shaped : Effect session []
            (session.changeBridge index fun bridge => { bridge with shape := some shape }) :=
          .detect (own ▸ detected)
        split
        · exact shaped
        · refine shaped.trans (.use (.inr ?_) (fun _ => rfl) (fun _ => rfl) fun _ _ => rfl)
          rw [Session.bridge_changeBridge_self _ bound]
          rfl

theorem Bridge.register_effect (nested : Nested) (bridge : Bridge) (name : String)
    (session : Session) :
    Effect session [] ((reply nested bridge (.register name)).after session) := by
  simp only [reply, after_bind, result_get, after_get]
  split
  · rename_i registered
    exact .register registered
  · exact .refl session

namespace Session

variable {session : Session} {index : Nat}

theorem occupied_effect (started : (session.bridge index).isInitialized = true) :
    Effect session [] (session.occupied index) :=
  .use (.inl started) (fun _ => rfl) (fun _ => rfl) fun _ started => started

theorem stored_effect (started : (session.bridge index).isInitialized = true)
    (engine : Script.Engine) : Effect session [] (session.stored index engine) :=
  .use (.inl started) (fun _ => rfl) (fun _ => rfl) fun _ _ => rfl

theorem released_effect (started : (session.bridge index).isInitialized = true)
    (engine : Script.Engine) : Effect session [] (session.released index engine) :=
  .use (.inl started) (fun _ => rfl) (fun _ => rfl) fun _ _ => rfl

end Session

namespace Machine

variable {stage : Stage}

def Control.updates (shell : Shell) : {stage : Stage} → Control stage → List Update
  | _, .words _ asked => (Shell.assignments? asked).elim [] shell.updatesOf
  | _, .script _ (.ask _ (.setVariable name value) _) => [.assign name value]
  | _, _ => []

def Config.updates (config : Config) : List Update :=
  config.control.updates config.session.shell

section

variable {session after : Session} {index : Nat}

theorem effect_await {waiting : Waiting stage} {run : Run stage.Answer} (tells : run.Tells) :
    Effect session [] (waiting.await run session).session :=
  tells session

theorem effect_start [Script.Language] {result : Except Fault Unit}
    (ran : Bridge.start index session = (result, after)) : Effect session [] after := by
  have started := Bridge.start_effect index session
  rwa [Run.after, ran] at started

theorem effect_taken {engine : Script.Engine}
    (present : (session.bridge index).engine = some engine) :
    Effect session [] (session.occupied index) :=
  Session.occupied_effect (congrArg Option.isSome present)

theorem effect_answer {engine last : Script.Engine} {request : Script.HostRequest}
    {reply : request.Reply} (started : (session.bridge index).isInitialized = true)
    (direct : ∀ words, request ≠ .call words)
    (replied : Bridge.answer noCommands index engine request session = ((reply, last), after))
    (next : request.Reply → Script.Engine → Talk) :
    Effect session ((Control.script index (.ask engine request next)).updates session.shell) after := by
  have stored := Session.stored_effect started engine
  cases request with
  | call words => exact absurd rfl (direct words)
  | register name =>
      cases replied
      exact stored.trans (Bridge.register_effect noCommands _ name _)
  | setVariable name value =>
      cases replied
      exact stored.trans (.setVariable _ name value)
  | print line =>
      cases replied
      exact stored.trans (Tells.emit _ _)
  | log level line =>
      cases replied
      exact stored.trans (Tells.emit _ _)
  | _ =>
      cases replied
      exact stored

theorem updates_invoking {line : Int32} {words : List Word} {waiting : Waiting .words}
    {fields : List String} (invoking : session.shell.Invokes words fields) :
    Config.updates ⟨.words line words, waiting, session⟩ = [] := by
  simp only [Config.updates, Control.updates, invoking.command, Option.elim_none]

end

/-- What a step does to the session. -/
theorem effect_step [Script.Language] {limits : Session.Limits} {config next : Config}
    (balanced : config.Balanced limits) (stepped : step config = some next) :
    Effect config.session config.updates next.session := by
  cases Move.of_step stepped with
  | lineRefused => exact effect_await (Execution.refuse_tells _)
  | refused => exact effect_await (Execution.refuse_tells _)
  | @assigned session line words waiting assignments assigned =>
      have made : Config.updates ⟨.words line words, waiting, session⟩ =
          session.shell.updatesOf assignments := by
        simp only [Config.updates, Control.updates, assigned, Option.elim_some]
      rw [made]
      exact .assign session assignments
  | emptied invoking =>
      rw [updates_invoking invoking]
      exact .refl _
  | tooDeep invoking =>
      rw [updates_invoking invoking]
      exact effect_await (Execution.refuseCall_tells _ _)
  | entered invoking =>
      rw [updates_invoking invoking]
      exact .enterFunction _ _
  | bridgeAsked invoking =>
      rw [updates_invoking invoking]
      exact .refl _
  | recorded invoking =>
      rw [updates_invoking invoking]
      exact effect_await (Execution.record_tells _ _ _)
  | internal invoking known =>
      rw [updates_invoking invoking]
      exact effect_await (Execution.runInternal?_tells known)
  | program invoking =>
      rw [updates_invoking invoking]
      exact effect_await (Execution.runProgram_tells _ _ _)
  | started => exact Bridge.start_effect _ _
  | unstarted failed => exact effect_start failed
  | loadKept ready => exact effect_start ready
  | loadBegun ready present => exact (effect_start ready).trans (effect_taken present)
  | callBegun present => exact (effect_taken present).trans (Tells.emit _ _)
  | scriptEnded =>
      exact Session.released_effect (balanced.started _ List.mem_cons_self) _
  | commandUnread => exact Session.stored_effect (balanced.started _ List.mem_cons_self) _
  | commandAsked => exact Session.stored_effect (balanced.started _ List.mem_cons_self) _
  | answered direct replied =>
      exact effect_answer (balanced.started _ List.mem_cons_self) direct replied _
  | left => exact .leaveFunction _
  | finished => exact effect_await (Execution.finish_tells _)
  | reported => exact effect_await (Bridge.report_tells _ _)
  | _ => exact .refl _

end Machine

end ScriptedShell
