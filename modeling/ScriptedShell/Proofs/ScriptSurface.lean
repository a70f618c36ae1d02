import ScriptedShell.Proofs.StartFailure
import ScriptedShell.Proofs.VariableStore
import ScriptedShell.Script.Standard

/-!
What a script can use in the engine of a bridge that has just been started: the object with the shell's
functions, the console, and `print`.
-/

namespace ScriptedShell

namespace Script

variable [Library]

def callMember (object function : String) (arguments : List Value) : Action Value := do
  let holder ← Member.readNamed callFromHost (.object Intrinsic.global) object
  let member ← Member.readNamed callFromHost holder function
  callFromHost member holder arguments

def Engine.Finds (engine : Engine) (name : String) (object : ObjectId) : Prop :=
  (Member.readNamed callFromHost (.object Intrinsic.global) name).Returns engine (.object object)
    engine

/-- The surface of a bridge under a name. -/
structure Engine.Serves (engine : Engine) (name : String) : Prop where
  shell : ∃ holder : ObjectId, engine.Finds name holder ∧
    engine.Offers holder "register" (.shell .register) ∧
    engine.Offers holder "getVariable" (.shell .getVariable) ∧
    engine.Offers holder "setVariable" (.shell .setVariable) ∧
    engine.Offers holder "getEnvironment" (.shell .getEnvironment) ∧
    engine.Offers holder "call" (.shell .call)
  console : ∃ console : ObjectId, engine.Finds "console" console ∧
    engine.Offers console "log" (.console .info) ∧
    engine.Offers console "warn" (.console .warn) ∧
    engine.Offers console "error" (.console .error)
  print : engine.Offers Intrinsic.global "print" .print

/-- The names that an engine does not give up, or that something else needs. -/
def clashingNames : List String :=
  ["undefined", "NaN", "Infinity", "console", "print", "Object"]

namespace Engine

variable {engine : Engine} {name : String}

theorem Holds.finds {object : ObjectId}
    (holds : engine.Holds Intrinsic.global name (.object object)) : engine.Finds name object :=
  Member.readNamed_returns callFromHost holds.plainMember?

theorem Installed.serves (installed : engine.Installed name) (apart : name ∉ clashingNames) :
    engine.Serves name := by
  obtain ⟨holder, shell, found⟩ := installed.shell
  obtain ⟨console, furnished, named⟩ := installed.console
  have unclaimed : name ∉ consoleNames := fun member =>
    apart (List.mem_append_right readOnlyNames (List.mem_append_left ["Object"] member))
  have offers := shell.offers
  have levels := furnished.offers
  simp only [Installation.shellFunctions, Installation.consoleFunctions,
    List.forall_mem_cons] at offers levels
  obtain ⟨register, getVariable, setVariable, getEnvironment, call, _⟩ := offers
  obtain ⟨log, warn, error, _⟩ := levels
  exact
    { shell := ⟨holder, found unclaimed, register, getVariable, setVariable, getEnvironment, call⟩
      console := ⟨console, named.finds, log, warn, error⟩
      print := installed.print }

theorem Finds.unique {left right : ObjectId} (first : engine.Finds name left)
    (second : engine.Finds name right) : left = right := by
  have same := first.symm.trans second
  injection same with same
  injection same with same
  injection same with same
  injection same

end Engine

theorem callMember_yields {host : Host} {engine last : Engine} {session after : Session}
    {name member : String} {holder function : ObjectId} {arguments : List Value} {result : Value}
    (found : engine.Finds name holder) (holds : engine.Holds holder member (.object function))
    (called : (callFromHost (.object function) (.object holder) arguments).Yields host engine session
      result last after) :
    (callMember name member arguments).Yields host engine session result last after := by
  have read := (Member.readNamed_returns callFromHost holds.plainMember?).yields host session
  exact .bind (found.yields host session) (.bind read called)

end Script

open Script

theorem Bridge.environment_distinct {shell : Shell} (matching : shell.bindings.Matching) :
    (environment shell).Pairwise fun left right => left.1 ≠ right.1 := by
  refine (environment_sorted matching).imp fun before same => ?_
  exact NamePrecedes.irrefl _ (same ▸ before)

/-- At every moment of a session's life, a bridge that has not been started and whose version is
supported can be started, under every name that does not clash. Its scripts then find all of the surface,
and the environment that they get lists each variable of the shell once, with its value. -/
theorem namespace_usable [Language] {settings : HostSettings} {files : FileTree} {updates : List Update}
    {moment : Moment} {index : Nat} {bridge : Bridge} {version : String} {shape : RecordShape}
    (occurs : Moment.Occurs settings files updates moment)
    (found : moment.session.bridges[index]? = some bridge)
    (fresh : bridge.isInitialized = false) (present : moment.session.shellPresent = true)
    (stored : moment.session.shell.bindings.value? bridge.settings.versionVariable = some version)
    (supported : RecordShape.ofVersion? version = some shape)
    (apart : bridge.settings.scriptNamespace ∉ clashingNames) :
    let name := bridge.settings.scriptNamespace
    let shell := moment.session.shell
    ∃ (after : Session) (engine : Engine),
      Bridge.start index moment.session = (.ok (), after) ∧ after.shell = shell ∧
      after.shellPresent = true ∧ (after.bridge index).engine = some engine ∧ engine.Serves name ∧
      (∀ (variableName : String) (value : Option String),
        (variableName, value) ∈ Bridge.environment shell ↔
          shell.bindings.contains variableName = true ∧
            value = shell.bindings.value? variableName) ∧
      ∀ (nested : Nested) (now : Session), now.shell = shell → now.shellPresent = true →
        index < now.bridges.length →
        ∃ (object : ObjectId) (kept last : Engine),
          (callMember name "getEnvironment" []).Yields (Bridge.answer nested index) engine now
            (.object object) last (now.stored index kept) ∧
          last.object object = bare (listed (Bridge.environment shell)) := by
  intro name shell
  have matching : shell.bindings.Matching := occurs.matching
  have detected := Bridge.detectShape_of_version present stored supported
  have free : name ∉ readOnlyNames := fun member => apart (List.mem_append_left _ member)
  obtain ⟨engine, made, installed⟩ := Engine.withShell_ok name free
  have serves := installed.serves apart
  have bound : index < moment.session.bridges.length := (List.getElem?_eq_some_iff.mp found).1
  refine ⟨_, engine, Bridge.start_made found fresh detected made, rfl, present, ?_, serves,
    Bridge.mem_environment_iff matching, ?_⟩
  · rw [Session.bridge_changeBridge_self _ bound]
  · rintro nested now same here inside
    obtain ⟨holder, named, _, _, _, ⟨function, holds, builtin⟩, _⟩ := serves.shell
    have own := (installed.object fun object => apart (by simp [name, clashingNames, object])).hasOwnObject
    have distinct := Bridge.environment_distinct matching
    rw [← same] at distinct ⊢
    obtain ⟨kept, last, yields, listing⟩ :=
      ShellCall.getEnvironment_yields own nested here inside (nestingLimit - 2) [] distinct
    exact ⟨_, kept, last, callMember_yields named holds (invoke_yields builtin yields), listing⟩

theorem namespace_usable_prototype :
    let attached := (Change.attach { scriptNamespace := "__proto__" }).apply (Session.new {} .bare)
    ∃ (after : Session) (engine : Engine),
      Bridge.start 0 attached = (.ok (), after) ∧ (after.bridge 0).engine = some engine ∧
      engine.Serves "__proto__" ∧
      ∃ (object : ObjectId) (kept last : Engine),
        (callMember "__proto__" "getEnvironment" []).Yields (Bridge.answer Session.nested 0) engine
          after (.object object) last (after.stored 0 kept) ∧
        last.object object = bare [(.named "BASH_VERSION", .plain (.ofString "5.2.21(1)-release"))] := by
  intro attached
  have occurs : Moment.Occurs {} .bare [] (.rest attached) :=
    .single (.change (.attach { scriptNamespace := "__proto__" }) (Session.new {} .bare))
  have found : attached.bridges[0]? = some { settings := { scriptNamespace := "__proto__" } } := rfl
  obtain ⟨after, engine, started, shell, here, present, serves, _, environment⟩ :=
    namespace_usable occurs found rfl rfl rfl rfl (by decide)
  have bound : 0 < after.bridges.length := Session.bound_of_engine present
  obtain ⟨object, kept, last, yields, listing⟩ :=
    environment Session.nested after shell here bound
  exact ⟨after, engine, started, present, serves, object, kept, last, yields, listing⟩

theorem namespace_lost_console :
    let settings : Settings := { scriptNamespace := "console" }
    let attached := (Change.attach settings).apply (Session.new {} .bare)
    settings.problem? = none ∧
      ∃ (after : Session) (engine : Engine),
        Bridge.start 0 attached = (.ok (), after) ∧ (after.bridge 0).engine = some engine ∧
        ¬ engine.Serves "console" := by
  intro settings attached
  have found : attached.bridges[0]? = some { settings := settings } := rfl
  obtain ⟨engine, made, installed⟩ := Engine.withShell_ok "console" (by decide)
  refine ⟨by decide, _, engine, Bridge.start_made found rfl rfl made, rfl, fun serves => ?_⟩
  obtain ⟨console, furnished, named⟩ := installed.console
  obtain ⟨holder, finds, ⟨function, ⟨property, own, _⟩, _⟩, _⟩ := serves.shell
  have absent := furnished.fresh "register" (by decide)
  rw [← named.finds.unique finds] at own
  exact nomatch absent.symm.trans own

end ScriptedShell
