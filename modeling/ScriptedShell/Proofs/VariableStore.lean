import ScriptedShell.Proofs.ExportText
import ScriptedShell.Proofs.Reference
import ScriptedShell.Proofs.ScriptView
import ScriptedShell.Script.Standard

/-!
The variables of a session as all who read them see them: the shell's look-up and expansion, the bridges'
list of variables, and the functions that scripts have. Each of them shows what was written last.
-/

namespace ScriptedShell

open Machine Script

structure Shell.Reads (shell : Shell) (name : String) (value : Option String) : Prop where
  found : ∀ entry, shell.bindings.find? name = some entry → entry.name = name ∧ entry.value = value
  missing : shell.bindings.find? name = none → value = none
  lookup : shell.bindings.value? name = value
  expansion : isIdentifier name = true → ∀ spelling, Quoting.Refers name spelling →
    shell.expandText spelling = value.getD ""

/-- The list of variables has each name once, in the order of the bytes, and no others than those that
were written or declared. -/
structure Shell.Lists (shell : Shell) (history : List Update) : Prop where
  sorted : (Bridge.environment shell).Pairwise fun left right => NamePrecedes left.1 right.1
  listed : ∀ (name : String) (value : Option String),
    (name, value) ∈ Bridge.environment shell ↔
      history.any (Update.creates name) = true ∧ value = latest? name history

/-- What the functions that a script has do with the variables, on any bridge and from any engine. -/
structure Session.Shows [Library] (session : Session) (history : List Update) : Prop where
  getVariable : ∀ (nested : Nested) {index : Nat} (fuel : Nat) {engine : Engine} {id : ObjectId}
    (receiver : Value) (name : String) (more : List Value), index < session.bridges.length →
    (engine.object id).objectClass = .builtin (.shell .getVariable) →
    (Script.invoke (fuel + 1) (.object id) receiver (.ofString name :: more)).Yields
      (Bridge.answer nested index) engine session (.ofVariable (latest? name history)) engine
      (session.stored index engine)
  setVariable : ∀ (nested : Nested) {index : Nat} (fuel : Nat) {engine : Engine} {id : ObjectId}
    (receiver : Value) (name value : String) (more : List Value), index < session.bridges.length →
    (engine.object id).objectClass = .builtin (.shell .setVariable) →
    (Script.invoke (fuel + 1) (.object id) receiver
        (.ofString name :: .ofString value :: more)).Yields
      (Bridge.answer nested index) engine session .undefined engine
      { session.stored index engine with shell := session.shell.assign name value }
  /-- The object has the listed names and nothing else. -/
  getEnvironment : ∀ (nested : Nested) {index : Nat} (fuel : Nat) {engine : Engine} {id : ObjectId}
    (receiver : Value) (arguments : List Value), index < session.bridges.length →
    (engine.object id).objectClass = .builtin (.shell .getEnvironment) → engine.hasOwnObject = true →
    ∃ (object : ObjectId) (stored after : Engine),
      (Script.invoke (fuel + 2) (.object id) receiver arguments).Yields
        (Bridge.answer nested index) engine session (.object object) after
        (session.stored index stored) ∧
      after.object object = bare (listed (Bridge.environment session.shell))

section

variable {shell : Shell}

theorem Bridge.environment_eq (matching : shell.bindings.Matching) :
    environment shell = shell.bindings.entries.map fun entry => (entry.1, entry.2.value) := by
  rw [environment, Variables.snapshot, List.map_map]
  refine List.map_congr_left fun entry member => ?_
  have found := (Table.find?_eq_some_iff shell.bindings entry.1 entry.2).mpr member
  exact congrArg (·, entry.2.value) (matching entry.1 entry.2 found).named

theorem Bridge.environment_sorted (matching : shell.bindings.Matching) :
    (environment shell).Pairwise fun left right => NamePrecedes left.1 right.1 := by
  rw [environment_eq matching, List.pairwise_map]
  exact shell.bindings.sorted

theorem Bridge.mem_environment_iff (matching : shell.bindings.Matching) (name : String)
    (value : Option String) :
    (name, value) ∈ environment shell ↔
      shell.bindings.contains name = true ∧ value = shell.bindings.value? name := by
  rw [environment_eq matching, List.mem_map, Table.contains, Variables.value?]
  constructor
  · rintro ⟨⟨key, entry⟩, member, same⟩
    cases same
    rw [(Table.find?_eq_some_iff shell.bindings key entry).mpr member]
    exact ⟨rfl, rfl⟩
  · rintro ⟨present, rfl⟩
    obtain ⟨entry, found⟩ := Option.isSome_iff_exists.mp present
    refine ⟨(name, entry), (Table.find?_eq_some_iff shell.bindings name entry).mp found, ?_⟩
    rw [found]
    rfl

theorem Shell.reads {name : String} {value : Option String} (matching : shell.bindings.Matching)
    (known : shell.bindings.value? name = value) : shell.Reads name value where
  found := by
    intro entry found
    refine ⟨(matching name entry found).named, ?_⟩
    rw [← known, Variables.value?, found]
    rfl
  missing := by
    intro missing
    rw [← known, Variables.value?, missing]
    rfl
  lookup := known
  expansion := by
    intro identifier spelling refers
    rw [refers.expandText identifier, known]

end

theorem Script.invoke_yields [Library] {host : Host} {engine last : Engine} {session after : Session}
    {id : ObjectId} {function : ShellFunction} {fuel : Nat} {receiver result : Value}
    {arguments : List Value} (known : (engine.object id).objectClass = .builtin (.shell function))
    (yields : (ShellCall.run (invoke fuel) function arguments).Yields host engine session result last
      after) :
    (invoke (fuel + 1) (.object id) receiver arguments).Yields host engine session result last
      after := by
  rw [Action.Yields, invoke_shell known]
  exact yields

def viewer : Engine :=
  let engine := Intrinsic.start
  let engine := Intrinsic.addFunction Intrinsic.global ⟨"getVariable", 1, .shell .getVariable⟩ engine
  let engine :=
    Intrinsic.addFunction Intrinsic.global ⟨"getEnvironment", 0, .shell .getEnvironment⟩ engine
  Intrinsic.addConstructor Intrinsic.objectPrototype ⟨"Object", 1, .makeObject⟩
    [⟨"create", 2, .createObject⟩] engine

/-- Whoever writes a variable, all who read it get what was written last. To declare or to export a
variable does not count as a write, and a write to one name is none to another. -/
theorem variables_coherent [Language] {settings : HostSettings} {files : FileTree} {updates : List Update}
    {moment : Moment} (occurs : Moment.Occurs settings files updates moment) :
    let session := moment.session
    let history := Update.assign Shell.versionVariable settings.version :: updates
    (∀ name, session.shell.Reads name (latest? name history)) ∧
      session.shell.Lists history ∧
      (session.shellPresent = true → session.Shows history) ∧
      ∀ (bindings : Variables) (update : Update) (name : String), update.written? name = none →
        (update.apply bindings).value? name = bindings.value? name := by
  intro session history
  have matching : session.shell.bindings.Matching := occurs.matching
  have value (name : String) : session.shell.bindings.value? name = latest? name history := by
    rw [occurs.bindings, Variables.value?_update]
    exact Option.or_none
  have present (name : String) :
      session.shell.bindings.contains name = history.any (Update.creates name) := by
    rw [occurs.bindings, Variables.contains_update]
    exact Bool.or_false _
  have sorted := Bridge.environment_sorted matching
  refine ⟨?reads, ?lists, ?shows, ?others⟩
  case reads =>
    intro name
    exact Shell.reads matching (value name)
  case lists =>
    refine ⟨sorted, ?_⟩
    intro name given
    rw [Bridge.mem_environment_iff matching, present, value]
  case shows =>
    intro shellPresent
    refine ⟨?_, ?_, ?_⟩
    · intro nested index fuel engine id receiver name more bound known
      have yields := ShellCall.getVariable_yields (invoke fuel) nested shellPresent bound engine name
        more
      rw [value] at yields
      exact invoke_yields known yields
    · intro nested index fuel engine id receiver name given more bound known
      exact invoke_yields known
        (ShellCall.setVariable_yields (invoke fuel) nested shellPresent bound engine name given more)
    · intro nested index fuel engine id receiver arguments bound known own
      have distinct : (Bridge.environment session.shell).Pairwise
          fun left right => left.1 ≠ right.1 := by
        refine sorted.imp fun before same => ?_
        exact NamePrecedes.irrefl _ (same ▸ before)
      obtain ⟨stored, after, yields, last⟩ := ShellCall.getEnvironment_yields own nested shellPresent
        bound fuel arguments distinct
      exact ⟨_, stored, after, invoke_yields known yields, last⟩
  case others =>
    intro bindings update name unwritten
    rw [Variables.value?_apply, unwritten]
    rfl

theorem variables_coherent_after_changes :
    let changes : List Change := [.attach {}, .assign "A" "1", .declare "B", .markExported "A",
      .assign "A" "2"]
    let session := changes.foldl (fun session change => change.apply session) (Session.new {} .bare)
    let expected := [("A", some "2"), ("B", none), ("BASH_VERSION", some "5.2.21(1)-release")]
    let getVariable : ObjectId := 20
    let getEnvironment : ObjectId := 21
    Moment.Occurs {} .bare (changes.flatMap Change.updates) (.rest session) ∧
      session.shell.Reads "A" (some "2") ∧ session.shell.Reads "B" none ∧
      Bridge.environment session.shell = expected ∧
      (Script.invoke 1 (.object getVariable) .undefined [.ofString "A"]).Yields
        (Bridge.answer Session.nested 0) viewer session (.ofString "2") viewer
        (session.stored 0 viewer) ∧
      ∃ (object : ObjectId) (stored after : Engine),
        (Script.invoke 2 (.object getEnvironment) .undefined []).Yields
          (Bridge.answer Session.nested 0) viewer session (.object object) after
          (session.stored 0 stored) ∧
        after.object object = bare (listed expected) := by
  intro changes session expected getVariable getEnvironment
  have occurs : Moment.Occurs {} .bare (changes.flatMap Change.updates) (.rest session) :=
    .changes changes _
  obtain ⟨reads, _, shows, _⟩ := variables_coherent occurs
  have environment : Bridge.environment session.shell = expected := by decide
  have shows := shows rfl
  have bound : 0 < session.bridges.length := by decide
  have own : viewer.hasOwnObject = true := by decide
  have readable : (viewer.object getVariable).objectClass = .builtin (.shell .getVariable) := rfl
  have listable : (viewer.object getEnvironment).objectClass = .builtin (.shell .getEnvironment) := rfl
  have read := shows.getVariable Session.nested 0 .undefined "A" [] bound readable
  have listed := shows.getEnvironment Session.nested 0 .undefined [] bound listable own
  exact ⟨occurs, reads "A", reads "B", environment, read, listed⟩

end ScriptedShell
