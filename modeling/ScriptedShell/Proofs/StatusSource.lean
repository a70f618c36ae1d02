import ScriptedShell.Proofs.Moment
import ScriptedShell.Proofs.Move
import ScriptedShell.Proofs.ProgramEnding

/-!
Where statuses come from. All that a shell ends commands with by itself, and all that child programs end
with, are statuses that a process can report as they are. Any other one is the answer of a script.
-/

namespace ScriptedShell

open Machine

def Usual (allowed : Status → Prop) : Prop :=
  ∀ status : Status, status.Ordinary → allowed status

namespace Usual

variable {allowed : Status → Prop}

theorem success (usual : Usual allowed) : allowed .success :=
  usual _ (by decide)

theorem failure (usual : Usual allowed) : allowed .failure :=
  usual _ (by decide)

theorem inverted (usual : Usual allowed) (status : Status) : allowed status.inverted := by
  unfold Status.inverted
  split
  · exact usual.failure
  · exact usual.success

theorem fault (usual : Usual allowed) (fault : Fault) : allowed fault.status := by
  cases fault with
  | unexpectedResult typeName => exact usual.success
  | _ => exact usual.failure

end Usual

/-- The statuses that a shell keeps, its last one and those of its recorders, are among some. -/
structure Shell.Within (allowed : Status → Prop) (shell : Shell) : Prop where
  last : allowed shell.lastStatus
  recorders : ∀ {name own : String} {status : Status},
    shell.extensions.find? name = some (.recorder own status) → allowed status

/-- A run keeps the statuses of the shell among some, and its answer is of a kind. -/
def Run.Within {α : Type} (allowed : Status → Prop) (run : Run α) (kind : α → Prop) : Prop :=
  ∀ session : Session, session.shell.Within allowed →
    kind (run.result session) ∧ (run.after session).shell.Within allowed

section

variable {allowed : Status → Prop}

namespace Shell.Within

variable {shell : Shell}

theorem assignAll (within : shell.Within allowed) (assignments : List (String × String)) :
    (shell.assignAll assignments).Within allowed := by
  unfold Shell.assignAll
  induction assignments generalizing shell with
  | nil => exact within
  | cons first rest ih => exact ih ⟨within.last, within.recorders⟩

theorem registerFunction {next : Shell} {shape : Option RecordShape} {builtinName name : String}
    (within : shell.Within allowed)
    (registered : shell.registerFunction shape builtinName name = .ok next) :
    next.Within allowed := by
  unfold Shell.registerFunction at registered
  split at registered
  · contradiction
  · split at registered
    · cases registered
      exact ⟨within.last, within.recorders⟩
    · contradiction

end Shell.Within

namespace Run.Within

variable {α β : Type} {kind : α → Prop} {further : β → Prop}

theorem of_eq {run : Run α} (holds : run.Within allowed kind) {session after : Session} {value : α}
    (ran : run session = (value, after)) (within : session.shell.Within allowed) :
    kind value ∧ after.shell.Within allowed := by
  have ended := holds session within
  rwa [Run.result, Run.after, ran] at ended

theorem pure {value : α} (known : kind value) : Within allowed (Pure.pure value) kind :=
  fun _ within => ⟨known, within⟩

theorem bind {run : Run α} {next : α → Run β} (first : run.Within allowed kind)
    (rest : ∀ value, kind value → (next value).Within allowed further) :
    (run >>= next).Within allowed further := by
  intro session within
  obtain ⟨known, between⟩ := first session within
  exact rest _ known _ between

theorem look {next : Session → Run β}
    (rest : ∀ session, session.shell.Within allowed → (next session).Within allowed further) :
    (get >>= next : Run β).Within allowed further :=
  fun session within => rest session within session within

theorem emit (event : Event) : (Run.emit event).Within allowed fun _ => True :=
  fun _ within => ⟨trivial, within⟩

theorem emitText (event : String → Event) (text : String) :
    (Run.emitText event text).Within allowed fun _ => True := by
  unfold Run.emitText
  split
  · exact .pure trivial
  · exact .emit _

theorem changeShell {f : Shell → Shell}
    (kept : ∀ shell, shell.Within allowed → (f shell).Within allowed) :
    (Run.changeShell f).Within allowed fun _ => True :=
  fun _ within => ⟨trivial, kept _ within⟩

theorem changeBridge (index : Nat) (f : Bridge → Bridge) :
    (Run.changeBridge index f).Within allowed fun _ => True :=
  fun _ within => ⟨trivial, within⟩

end Run.Within

namespace Execution

theorem finish_within {status : Status} (known : allowed status) :
    (finish status).Within allowed allowed :=
  .bind (.changeShell fun _ within => ⟨known, within.recorders⟩) fun _ _ => .pure known

theorem finishCommand_within (usual : Usual allowed) {status : Status} (known : allowed status)
    (inverted : Bool) : (finishCommand inverted status).Within allowed allowed := by
  cases inverted with
  | false => exact finish_within known
  | true => exact finish_within (usual.inverted status)

theorem refuse_within (usual : Usual allowed) (complaint : String) :
    (refuse complaint).Within allowed allowed :=
  .bind (.emit _) fun _ _ => finish_within usual.failure

theorem refuseCall_within (usual : Usual allowed) (name : String) (limit : UInt64) :
    (refuseCall name limit).Within allowed allowed :=
  .bind (.emit _) fun _ _ => .pure usual.failure

theorem record_within {status : Status} (known : allowed status) (name : String)
    (words : List Word) : (record name status words).Within allowed allowed :=
  .bind (.emit _) fun _ _ => .pure known

theorem runInternal?_within (usual : Usual allowed) {name : String} {arguments : List String}
    {run : Run Status} (known : runInternal? name arguments = some run) :
    run.Within allowed allowed := by
  unfold runInternal? at known
  split at known
  · cases known
    exact .pure usual.success
  · split at known
    · cases known
      exact .pure usual.failure
    · split at known
      · cases known
        exact .bind (.emit _) fun _ _ => .pure usual.success
      · contradiction

theorem runProgram_within (usual : Usual allowed) (line : Int32) (name : String)
    (arguments : List String) : (runProgram line name arguments).Within allowed allowed := by
  refine .look fun session _ => ?_
  split
  · rename_i result started
    have ended := usual _ (Program.start_ordinary started)
    exact .bind (.emit _) fun _ _ => .bind (.emitText _ _) fun _ _ => .bind (.emitText _ _)
      fun _ _ => .pure ended
  · refine .bind (.emit _) fun _ _ => .pure ?_
    split
    · exact usual _ (by decide)
    · exact usual _ (by decide)

end Execution

namespace Bridge

theorem report_within (usual : Usual allowed) (index : Nat) {result : Except Fault Status}
    (known : ∀ status, result = .ok status → allowed status) :
    (report index result).Within allowed allowed := by
  cases result with
  | ok status => exact .pure (known status rfl)
  | error fault =>
      exact .look fun session _ => .bind (.emit _) fun _ _ => .pure (usual.fault fault)

theorem start_within [Script.Language] (index : Nat) : (start index).Within allowed fun _ => True := by
  refine .look fun session _ => ?_
  split
  · exact .pure trivial
  · split
    · exact .pure trivial
    · split
      · exact .pure trivial
      · refine .bind (.changeBridge _ _) fun _ _ => ?_
        split
        · exact .pure trivial
        · exact .bind (.changeBridge _ _) fun _ _ => .pure trivial

theorem perform_start_within [Script.Language] (usual : Usual allowed) (nested : Nested) (index : Nat) :
    (perform nested index .start).Within allowed fun result =>
      ∀ status, result = .ok status → allowed status := by
  refine .bind (start_within index) fun result _ => .pure ?_
  cases result with
  | ok done =>
      rintro _ ⟨⟩
      exact usual.success
  | error fault => exact nofun

theorem reply_within (bridge : Bridge) (request : Script.HostRequest) :
    (reply noCommands bridge request).Within allowed fun _ => True := by
  cases request with
  | presence => exact .look fun _ _ => .pure trivial
  | register name =>
      refine .look fun session within => ?_
      split
      · rename_i shell registered
        exact fun _ _ => ⟨trivial, within.registerFunction registered⟩
      · exact .pure trivial
  | getVariable name => exact .look fun _ _ => .pure trivial
  | setVariable name value => exact .changeShell fun _ within => ⟨within.last, within.recorders⟩
  | environment => exact .look fun _ _ => .pure trivial
  | call words =>
      change (invoke noCommands bridge.shape words).Within allowed fun _ => True
      unfold invoke
      split
      · exact .pure trivial
      · rename_i command read
        have failed : (noCommands command).Within allowed fun _ => True := .pure trivial
        exact .bind failed fun _ _ => .pure trivial
  | print line => exact .emit _
  | log level line => exact .emit _

theorem answer_within (index : Nat) (engine : Script.Engine) (request : Script.HostRequest) :
    (answer noCommands index engine request).Within allowed fun _ => True :=
  .bind (.changeBridge index _) fun _ _ => .look fun _ _ =>
    .bind (reply_within _ request) fun _ _ => .look fun _ _ => .pure trivial

end Bridge

namespace Machine

variable {stage : Stage}

def Control.Within (allowed : Status → Prop) : {stage : Stage} → Control stage → Prop
  | .command, .answer status => allowed status
  | .words, .answer status => allowed status
  | .request, .answer result => ∀ status, result = .ok status → allowed status
  | _, _ => True

structure Config.Within (allowed : Status → Prop) (config : Config) : Prop where
  control : config.control.Within allowed
  shell : config.session.shell.Within allowed

def Config.scriptStatus? : Config → Option Status
  | ⟨.script _ (.done (.ok status, _)), _, _⟩ => some status
  | _ => none

theorem within_await {waiting : Waiting stage} {run : Run stage.Answer} {session : Session}
    (within : session.shell.Within allowed)
    (ran : run.Within allowed fun answer => (Control.answer answer : Control stage).Within allowed) :
    (waiting.await run session).Within allowed :=
  have ⟨known, kept⟩ := ran session within
  ⟨known, kept⟩

theorem within_step [Script.Language] (usual : Usual allowed) {config next : Config}
    (within : config.Within allowed)
    (ended : ∀ status, config.scriptStatus? = some status → allowed status)
    (stepped : step config = some next) : next.Within allowed := by
  obtain ⟨control, shell⟩ := within
  cases Move.of_step stepped with
  | textEnded => exact ⟨shell.last, shell⟩
  | lineBlank => exact ⟨shell.last, shell⟩
  | lineRefused => exact within_await shell (Execution.refuse_within usual _)
  | refused => exact within_await shell (Execution.refuse_within usual _)
  | assigned => exact ⟨usual.success, shell.assignAll _⟩
  | emptied => exact ⟨usual.success, shell⟩
  | tooDeep => exact within_await shell (Execution.refuseCall_within usual _ _)
  | recorded invoking found =>
      exact within_await shell (Execution.record_within (shell.recorders found) _ _)
  | internal invoking known => exact within_await shell (Execution.runInternal?_within usual known)
  | program => exact within_await shell (Execution.runProgram_within usual _ _ _)
  | malformed => exact ⟨nofun, shell⟩
  | started => exact within_await shell (Bridge.perform_start_within usual _ _)
  | unstarted failed => exact ⟨nofun, ((Bridge.start_within _).of_eq failed shell).2⟩
  | loadKept ready => exact ⟨nofun, ((Bridge.start_within _).of_eq ready shell).2⟩
  | loadBegun ready => exact ⟨trivial, ((Bridge.start_within _).of_eq ready shell).2⟩
  | callKept => exact ⟨nofun, shell⟩
  | @scriptEnded session index result engine waiting =>
      refine ⟨?_, shell⟩
      rintro status rfl
      exact ended status rfl
  | answered direct replied => exact ⟨trivial, ((Bridge.answer_within _ _ _).of_eq replied shell).2⟩
  | left => exact ⟨control, ⟨shell.last, shell.recorders⟩⟩
  | finished => exact within_await shell (Execution.finishCommand_within usual control _)
  | reported => exact within_await shell (Bridge.report_within usual _ control)
  | _ => exact ⟨trivial, ⟨shell.last, shell.recorders⟩⟩

theorem within_reaches [Script.Language] (usual : Usual allowed) {first last : Config}
    (within : first.Within allowed) (reaches : Reaches first last) :
    last.Within allowed ∨ ∃ config status, Reaches first config ∧
      config.scriptStatus? = some status ∧ ¬ allowed status := by
  induction reaches with
  | refl => exact .inl within
  | @tail middle last earlier stepped ih =>
      rcases ih with within | passed
      · by_cases known : ∀ status, middle.scriptStatus? = some status → allowed status
        · exact .inl (within_step usual within known stepped)
        · obtain ⟨status, unknown⟩ := not_forall.mp known
          obtain ⟨ended, other⟩ := Classical.not_imp.mp unknown
          exact .inr ⟨middle, status, earlier, ended, other⟩
      · exact .inr passed

theorem within_begin {stage : Stage} (operation : Operation stage) {session : Session}
    (within : session.shell.Within allowed) : (begin operation session).Within allowed := by
  cases operation <;> exact ⟨trivial, within⟩

end Machine

/-- What is still to be asked of a session, and a moment on the way. -/
inductive Session.Passes [Script.Language] : Session → List (Operation .command) → Config → Prop where
  | now {session : Session} {operation : Operation .command} {later : List (Operation .command)}
      {config : Config} (reaches : Reaches (begin operation session) config) :
      Passes session (operation :: later) config
  | later {session : Session} {operation : Operation .command} {later : List (Operation .command)}
      {config : Config} (passes : Passes (operation.run.after session) later config) :
      Passes session (operation :: later) config

def Session.afterAll [Script.Language] (operations : List (Operation .command)) (session : Session) : Session
    :=
  operations.foldl (fun session operation => operation.run.after session) session

theorem Session.within_afterAll [Script.Language] (usual : Usual allowed) {session : Session}
    (resting : session.Resting) (within : session.shell.Within allowed)
    (operations : List (Operation .command)) :
    (session.afterAll operations).shell.Within allowed ∨ ∃ config status,
      session.Passes operations config ∧ config.scriptStatus? = some status ∧ ¬ allowed status := by
  induction operations generalizing session with
  | nil => exact .inl within
  | cons operation later ih =>
      have ended := reaches_begin operation resting
      rcases within_reaches usual (within_begin operation within) ended with kept | passed
      · rcases ih (resting.undisturbed (operation.run_keeps _)) kept.shell with done | passed
        · exact .inl done
        · obtain ⟨config, status, passes, rest⟩ := passed
          exact .inr ⟨config, status, .later passes, rest⟩
      · obtain ⟨config, status, reaches, rest⟩ := passed
        exact .inr ⟨config, status, .now reaches, rest⟩

/-- The last status is one that a process can report as it is, unless a script that ended on the way had
exactly this one. -/
theorem Session.last_status_source [Script.Language] {session : Session} (resting : session.Resting)
    (within : session.shell.Within Status.Ordinary) (operations : List (Operation .command)) :
    (session.afterAll operations).shell.lastStatus.Ordinary ∨ ∃ config,
      session.Passes operations config ∧
        config.scriptStatus? = some (session.afterAll operations).shell.lastStatus := by
  let final := (session.afterAll operations).shell.lastStatus
  by_cases ordinary : final.Ordinary
  · exact .inl ordinary
  · -- All statuses but the last one are allowed, and yet it is there at the end.
    have usual : Usual (· ≠ final) := by
      rintro status known rfl
      exact ordinary known
    have fresh : session.shell.Within (· ≠ final) :=
      ⟨usual _ within.last, fun found => usual _ (within.recorders found)⟩
    rcases session.within_afterAll usual resting fresh operations with kept | passed
    · exact absurd rfl kept.last
    · obtain ⟨config, status, passes, ended, same⟩ := passed
      rw [not_not.mp same] at ended
      exact .inr ⟨config, passes, ended⟩

end

end ScriptedShell
