import ScriptedShell.Proofs.MachineRun
import ScriptedShell.Proofs.Move

/-!
The balance between a session and what waits for the piece that runs: there is a positional frame for
each function that waits, and a bridge is busy exactly as long as a script of its own is on the way.
Each step of the machine keeps it.
-/

namespace ScriptedShell

open Machine

namespace Session

structure Limits where
  functions : Nat
  bridges : Nat

def limits (session : Session) : Limits where
  functions := session.shell.settings.maxCallDepth.toNat
  bridges := session.bridges.length

theorem limits_eq_of_undisturbed {owner : Option Nat} {before after : Session}
    (undisturbed : before.Undisturbed owner after) : after.limits = before.limits := by
  rw [limits, limits, undisturbed.shell.settings, undisturbed.count]

theorem limits_changeBridge (session : Session) (index : Nat) (f : Bridge → Bridge) :
    (session.changeBridge index f).limits = session.limits := by
  rw [limits, limits, changeBridge_length]
  rfl

/-- The session has a frame for each function that runs, and the busy bridges are those whose scripts
run. -/
structure Balanced (limits : Limits) (functions : Nat) (scripts : List Nat) (session : Session) :
    Prop where
  within : session.limits = limits
  frames : session.shell.frames.length = functions
  depth : session.shell.depth = functions
  allowed : functions ≤ limits.functions
  busy : ∀ index, (session.bridge index).busy = true ↔ index ∈ scripts
  started : ∀ index ∈ scripts, (session.bridge index).isInitialized = true
  once : scripts.Nodup

namespace Balanced

variable {limits : Limits} {functions : Nat} {scripts : List Nat} {session : Session} {index : Nat}

theorem undisturbed {owner : Option Nat} {after : Session}
    (balanced : session.Balanced limits functions scripts)
    (undisturbed : session.Undisturbed owner after) : after.Balanced limits functions scripts where
  within := (limits_eq_of_undisturbed undisturbed).trans balanced.within
  frames := by
    rw [undisturbed.shell.frames]
    exact balanced.frames
  depth := by
    rw [undisturbed.shell.depth]
    exact balanced.depth
  allowed := balanced.allowed
  busy := by
    intro index
    rw [(undisturbed.bridges index).busy]
    exact balanced.busy index
  started := fun index member =>
    (undisturbed.bridges index).initialized (balanced.started index member)
  once := balanced.once

theorem congr {after : Session} (balanced : session.Balanced limits functions scripts)
    (shell : after.shell = session.shell) (bridges : after.bridges = session.bridges) :
    after.Balanced limits functions scripts := by
  cases session
  cases after
  cases shell
  cases bridges
  exact ⟨balanced.within, balanced.frames, balanced.depth, balanced.allowed, balanced.busy,
    balanced.started, balanced.once⟩

theorem bound (balanced : session.Balanced limits functions scripts) (member : index ∈ scripts) :
    index < session.bridges.length := by
  obtain ⟨engine, present⟩ := Option.isSome_iff_exists.mp (balanced.started index member)
  exact bound_of_engine present

theorem enterFunction (balanced : session.Balanced limits functions scripts) (arguments : List String)
    (free : session.shell.depth < session.shell.settings.maxCallDepth.toNat) :
    Balanced limits (functions + 1) scripts
      { session with shell := session.shell.enterFunction arguments } where
  within := balanced.within
  frames := congrArg (· + 1) balanced.frames
  depth := congrArg (· + 1) balanced.depth
  allowed := by
    rw [balanced.depth] at free
    rw [← balanced.within]
    exact free
  busy := balanced.busy
  started := balanced.started
  once := balanced.once

theorem leaveFunction (balanced : session.Balanced limits (functions + 1) scripts) :
    Balanced limits functions scripts { session with shell := session.shell.leaveFunction } where
  within := balanced.within
  frames := by
    change session.shell.frames.tail.length = functions
    rw [List.length_tail, balanced.frames]
    rfl
  depth := by
    change session.shell.depth - 1 = functions
    rw [balanced.depth]
    rfl
  allowed := Nat.le_of_succ_le balanced.allowed
  busy := balanced.busy
  started := balanced.started
  once := balanced.once

theorem occupied {engine : Script.Engine} (balanced : session.Balanced limits functions scripts)
    (present : (session.bridge index).engine = some engine)
    (idle : (session.bridge index).busy = false) :
    (session.occupied index).Balanced limits functions (index :: scripts) where
  within := (limits_changeBridge session index _).trans balanced.within
  frames := balanced.frames
  depth := balanced.depth
  allowed := balanced.allowed
  busy := by
    intro other
    rw [List.mem_cons, ← balanced.busy other, Session.occupied]
    by_cases same : other = index
    · subst same
      rw [bridge_changeBridge_self _ (bound_of_engine present)]
      simp
    · rw [bridge_changeBridge_of_ne session _ same]
      simp [same]
  started := by
    intro other member
    have kept : ((session.occupied index).bridge other).isInitialized =
        (session.bridge other).isInitialized :=
      view_changeBridge session index other Bridge.isInitialized fun _ => rfl
    rw [kept]
    rcases List.mem_cons.mp member with rfl | earlier
    · simp [Bridge.isInitialized, present]
    · exact balanced.started other earlier
  once := by
    refine List.nodup_cons.mpr ⟨?_, balanced.once⟩
    rw [← balanced.busy index, idle]
    exact Bool.false_ne_true

theorem released (balanced : session.Balanced limits functions (index :: scripts))
    (engine : Script.Engine) : (session.released index engine).Balanced limits functions scripts where
  within := (limits_changeBridge session index _).trans balanced.within
  frames := balanced.frames
  depth := balanced.depth
  allowed := balanced.allowed
  busy := by
    intro other
    have own := (List.nodup_cons.mp balanced.once).1
    by_cases same : other = index
    · subst same
      rw [Session.released, bridge_changeBridge_self _ (balanced.bound List.mem_cons_self)]
      simp [own]
    · rw [Session.released, bridge_changeBridge_of_ne session _ same, balanced.busy other]
      simp [same]
  started := by
    intro other member
    by_cases same : other = index
    · subst same
      rw [Session.released, bridge_changeBridge_self _ (balanced.bound List.mem_cons_self)]
      rfl
    · rw [Session.released, bridge_changeBridge_of_ne session _ same]
      exact balanced.started other (List.mem_cons_of_mem index member)
  once := (List.nodup_cons.mp balanced.once).2

theorem busyBridges_card (balanced : session.Balanced limits functions scripts) :
    session.busyBridges.card = scripts.length := by
  have same : session.busyBridges = scripts.toFinset := by
    ext index
    rw [busyBridges, Finset.mem_filter, Finset.mem_range, balanced.busy index, List.mem_toFinset]
    exact ⟨And.right, fun member => ⟨balanced.bound member, member⟩⟩
  rw [same, List.toFinset_card_of_nodup balanced.once]

end Balanced

end Session

namespace Machine

variable {stage : Stage}

def Waiting.functions : {stage : Stage} → Waiting stage → Nat
  | _, .nobody => 0
  | _, .lines _ _ outer => outer.functions
  | _, .function outer => outer.functions + 1
  | _, .script _ _ outer => outer.functions
  | _, .command _ outer => outer.functions
  | _, .bridge _ outer => outer.functions

def Waiting.scripts : {stage : Stage} → Waiting stage → List Nat
  | _, .nobody => []
  | _, .lines _ _ outer => outer.scripts
  | _, .function outer => outer.scripts
  | _, .script index _ outer => index :: outer.scripts
  | _, .command _ outer => outer.scripts
  | _, .bridge _ outer => outer.scripts

def Waiting.commands : {stage : Stage} → Waiting stage → Nat
  | _, .nobody => 0
  | _, .lines _ _ outer => outer.commands
  | _, .function outer => outer.commands
  | _, .script _ _ outer => outer.commands
  | _, .command _ outer => outer.commands + 1
  | _, .bridge _ outer => outer.commands

def Control.scripts : {stage : Stage} → Control stage → List Nat
  | _, .script index _ => [index]
  | _, _ => []

def Control.commands : {stage : Stage} → Control stage → Nat
  | _, .command _ => 1
  | _, _ => 0

namespace Config

def scripts (config : Config) : List Nat :=
  config.control.scripts ++ config.waiting.scripts

/-- How many commands have begun and not ended. -/
def commands (config : Config) : Nat :=
  config.control.commands + config.waiting.commands

def Balanced (limits : Session.Limits) (config : Config) : Prop :=
  config.session.Balanced limits config.waiting.functions config.scripts

end Config

variable {limits : Session.Limits}

theorem balanced_await {waiting : Waiting stage} {run : Run stage.Answer} {session : Session}
    (balanced : session.Balanced limits waiting.functions waiting.scripts)
    (keeps : run.Keeps none) : (waiting.await run session).Balanced limits :=
  balanced.undisturbed (keeps session)

theorem noCommands_keeps : noCommands.Keeps :=
  fun _ => .pure _

theorem balanced_step [Script.Language] {config next : Config} (balanced : config.Balanced limits)
    (stepped : step config = some next) : next.Balanced limits := by
  have started {index : Nat} {before after : Session} {result : Except Fault Unit}
      (ran : Bridge.start index before = (result, after)) : before.Undisturbed none after := by
    have kept := Bridge.start_keeps index before
    rwa [Run.after, ran] at kept
  cases Move.of_step stepped with
  | lineRefused => exact balanced_await balanced (Execution.refuse_keeps _)
  | refused => exact balanced_await balanced (Execution.refuse_keeps _)
  | @assigned session line words waiting assignments assigned =>
      have kept : session.Undisturbed none _ :=
        .changeShell session (Shell.assignAll_undisturbed assignments session.shell)
      exact Session.Balanced.undisturbed balanced kept
  | tooDeep => exact balanced_await balanced (Execution.refuseCall_keeps _ _)
  | entered invoking found room => exact Session.Balanced.enterFunction balanced _ room
  | recorded => exact balanced_await balanced (Execution.record_keeps _ _ _)
  | internal invoking known => exact balanced_await balanced (Execution.runInternal?_keeps known)
  | program => exact balanced_await balanced (Execution.runProgram_keeps _ _ _)
  | started => exact balanced_await balanced (Bridge.perform_keeps noCommands_keeps _ _)
  | unstarted failed => exact Session.Balanced.undisturbed balanced (started failed)
  | loadKept ready => exact Session.Balanced.undisturbed balanced (started ready)
  | loadBegun ready present idle =>
      exact (Session.Balanced.undisturbed balanced (started ready)).occupied present idle
  | @callBegun session index function words waiting engine present idle =>
      have quiet := calling_quiet index function words engine (session.occupied index)
      exact (Session.Balanced.occupied balanced present idle).congr quiet.1 quiet.2
  | scriptEnded => exact Session.Balanced.released balanced _
  | commandUnread =>
      exact Session.Balanced.undisturbed balanced
        (Bridge.stored_undisturbed (balanced.bound List.mem_cons_self) _)
  | commandAsked =>
      exact Session.Balanced.undisturbed balanced
        (Bridge.stored_undisturbed (balanced.bound List.mem_cons_self) _)
  | @answered session after index engine last request next waiting reply direct replied =>
      have answered := Bridge.answer_keeps noCommands_keeps (balanced.bound List.mem_cons_self) engine
        request
      rw [Run.after, replied] at answered
      exact Session.Balanced.undisturbed balanced answered
  | left => exact Session.Balanced.leaveFunction balanced
  | finished => exact balanced_await balanced (Execution.finish_keeps _)
  | reported => exact balanced_await balanced (Bridge.report_keeps _ _)
  | _ => exact balanced

theorem balanced_reaches [Script.Language] {config last : Config} (balanced : config.Balanced limits)
    (reaches : Reaches config last) : last.Balanced limits := by
  induction reaches with
  | refl => exact balanced
  | tail _ stepped ih => exact balanced_step ih stepped

end Machine

end ScriptedShell
