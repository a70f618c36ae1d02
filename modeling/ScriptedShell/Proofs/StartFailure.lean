import ScriptedShell.Proofs.FreshEngine
import ScriptedShell.Proofs.Reentrancy
import ScriptedShell.Script.Standard

/-!
What the start of a bridge does, case by case, and what a start that fails leaves behind.
-/

namespace ScriptedShell

open Script (readOnlyNames)

theorem Session.changeBridge_changeBridge (session : Session) (index : Nat) (f g : Bridge → Bridge) :
    (session.changeBridge index f).changeBridge index g =
      session.changeBridge index fun bridge => g (f bridge) := by
  simp only [Session.changeBridge, List.modify_modify_eq]
  rfl

namespace Bridge

variable {session after : Session} {index : Nat} {bridge : Bridge} {shape : RecordShape}
  {fault : Fault} {engine : Script.Engine}

section

variable [Script.Language] (found : session.bridges[index]? = some bridge)
  (fresh : bridge.isInitialized = false)

include found fresh

theorem start_undetected (undetected : detectShape session bridge = .error fault) :
    start index session = (.error fault, session) := by
  unfold start
  simp only [Run.get_bind, found, fresh, undetected]
  rfl

theorem start_unmade (detected : detectShape session bridge = .ok shape)
    (unmade : Script.Engine.withShell bridge.settings.scriptNamespace = .error fault) :
    start index session =
      (.error fault, session.changeBridge index fun bridge => { bridge with shape := some shape }) := by
  unfold start
  simp only [Run.get_bind, found, fresh, detected, unmade]
  rfl

theorem start_made (detected : detectShape session bridge = .ok shape)
    (made : Script.Engine.withShell bridge.settings.scriptNamespace = .ok engine) :
    start index session =
      (.ok (), session.changeBridge index fun bridge =>
        { bridge with shape := some shape, engine := some engine }) := by
  unfold start
  simp only [Run.get_bind, found, fresh, detected, made]
  exact congrArg (Prod.mk _) (session.changeBridge_changeBridge index _ _)

end

theorem start_missing [Script.Language] (missing : session.bridges[index]? = none) :
    start index session = (.error .notInitialized, session) := by
  unfold start
  simp only [Run.get_bind, missing]
  rfl

/-- What a start can do: there is no such bridge, it has been started before, its version is of no use, its
engine cannot be made after the shape has been kept, or it is started now. -/
inductive Starts [Script.Library] (index : Nat) (session : Session) : Except Fault Unit → Session → Prop where
  | missing (missing : session.bridges[index]? = none) :
      Starts index session (.error .notInitialized) session
  | again (started : (session.bridge index).isInitialized = true) :
      Starts index session (.ok ()) session
  | undetected {bridge : Bridge} {fault : Fault} (found : session.bridges[index]? = some bridge)
      (fresh : bridge.isInitialized = false)
      (undetected : detectShape session bridge = .error fault) :
      Starts index session (.error fault) session
  | unmade {bridge : Bridge} {shape : RecordShape} (found : session.bridges[index]? = some bridge)
      (fresh : bridge.isInitialized = false) (detected : detectShape session bridge = .ok shape)
      (fixed : bridge.settings.scriptNamespace ∈ readOnlyNames) :
      Starts index session (.error (.engineNotCreated Script.installationFailed))
        (session.changeBridge index fun bridge => { bridge with shape := some shape })
  | made {bridge : Bridge} {shape : RecordShape} {engine : Script.Engine}
      (found : session.bridges[index]? = some bridge) (fresh : bridge.isInitialized = false)
      (detected : detectShape session bridge = .ok shape)
      (installed : engine.Installed bridge.settings.scriptNamespace) :
      Starts index session (.ok ())
        (session.changeBridge index fun bridge =>
          { bridge with shape := some shape, engine := some engine })

theorem starts_of_eq [Script.Language] {result : Except Fault Unit}
    (started : start index session = (result, after)) : Starts index session result after := by
  have ended : ((start index).result session, (start index).after session) = (result, after) :=
    started
  obtain ⟨rfl, rfl⟩ := Prod.mk.inj ended
  rw [Run.result, Run.after]
  cases found : session.bridges[index]? with
  | none =>
      rw [start_missing found]
      exact .missing found
  | some bridge =>
      cases fresh : bridge.isInitialized with
      | true =>
          rw [← Session.bridge_eq_of_getElem? found] at fresh
          rw [start_initialized fresh]
          exact .again fresh
      | false =>
          cases detected : detectShape session bridge with
          | error fault =>
              rw [start_undetected found fresh detected]
              exact .undetected found fresh detected
          | ok shape =>
              by_cases fixed : bridge.settings.scriptNamespace ∈ readOnlyNames
              · rw [start_unmade found fresh detected (Script.Engine.withShell_error fixed)]
                exact .unmade found fresh detected fixed
              · obtain ⟨engine, made, installed⟩ := Script.Engine.withShell_ok _ fixed
                rw [start_made found fresh detected made]
                exact .made found fresh detected installed

theorem start_started [Script.Language] (ended : start index session = (.ok (), after)) :
    (after.bridge index).isInitialized = true := by
  cases starts_of_eq ended with
  | again started => exact started
  | made found fresh detected installed =>
      rw [Session.bridge_changeBridge_self _ (List.getElem?_eq_some_iff.mp found).1]
      rfl

theorem detectShape_of_version {version : String} (present : session.shellPresent = true)
    (stored : session.shell.bindings.value? bridge.settings.versionVariable = some version)
    (supported : RecordShape.ofVersion? version = some shape) :
    detectShape session bridge = .ok (bridge.shape.getD shape) := by
  rw [detectShape, if_pos present]
  simp only [stored, supported]

theorem detectShape_map {α : Type} (session : Session) (bridge : Bridge) (shape : Option RecordShape)
    (value : α) :
    (detectShape session { bridge with shape }).map (fun _ => value) =
      (detectShape session bridge).map fun _ => value := by
  unfold detectShape
  split
  · dsimp only
    split
    · rfl
    · split <;> rfl
  · rfl

theorem start_fixed [Script.Language] (session : Session) (found : session.bridges[index]? = some bridge)
    (fresh : bridge.isInitialized = false)
    (fixed : bridge.settings.scriptNamespace ∈ readOnlyNames) :
    (start index).result session =
      ((detectShape session bridge).map fun _ => ()).bind fun _ =>
        .error (.engineNotCreated Script.installationFailed) := by
  rw [Run.result]
  cases detected : detectShape session bridge with
  | error fault =>
      rw [start_undetected found fresh detected]
      rfl
  | ok shape =>
      rw [start_unmade found fresh detected (Script.Engine.withShell_error fixed)]
      rfl

/-- What a start that fails leaves behind. -/
structure StartFailure [Script.Language] (index : Nat) (session after : Session) : Prop where
  before : (session.bridge index).isInitialized = false
  stopped : (after.bridge index).isInitialized = false
  /-- The shell with its tables, the files, the events and the other bridges stay. -/
  shell : after.shell = session.shell
  around : after.shellPresent = session.shellPresent ∧ after.files = session.files ∧
    after.events = session.events ∧ after.bridges.length = session.bridges.length
  others : ∀ other, other ≠ index → after.bridge other = session.bridge other
  /-- The bridge stays as well, but for its shape where the script's name is one that no engine gives
  up. -/
  bridge : after.bridge index = { session.bridge index with shape := (after.bridge index).shape }
  unchanged : (session.bridge index).settings.scriptNamespace ∉ readOnlyNames → after = session
  /-- A shape that the bridge knew stays, and a new one is what the version tells. -/
  learned : (after.bridge index).shape = (session.bridge index).shape ∨
    (session.bridge index).shape = none ∧
      (detectShape session (session.bridge index)).toOption = (after.bridge index).shape
  /-- A later start ends as it would without this one, whatever has become of the shell by then. -/
  later : ∀ (shell : Shell) (shellPresent : Bool),
    (start index).result { after with shell, shellPresent } =
      (start index).result { session with shell, shellPresent }

theorem startFailure_of_unchanged [Script.Language] (before : (session.bridge index).isInitialized = false) :
    StartFailure index session session where
  before := before
  stopped := before
  shell := rfl
  around := ⟨rfl, rfl, rfl, rfl⟩
  others := fun _ _ => rfl
  bridge := rfl
  unchanged := fun _ => rfl
  learned := .inl rfl
  later := fun _ _ => rfl

/-- For every state of the shell and all settings: a start that fails changes nothing, unless it is the
engine that could not be made. Then the bridge has learned its shape, and that is all. -/
theorem start_failed [Script.Language] (failed : start index session = (.error fault, after)) :
    StartFailure index session after := by
  cases starts_of_eq failed with
  | missing missing =>
      have absent : session.bridge index = default := by
        simp [Session.bridge, List.getD, missing]
      refine startFailure_of_unchanged ?_
      rw [absent]
      rfl
  | undetected found fresh =>
      refine startFailure_of_unchanged ?_
      rwa [Session.bridge_eq_of_getElem? found]
  | @unmade bridge shape found fresh detected fixed =>
      have own := Session.bridge_eq_of_getElem? found
      have bound : index < session.bridges.length := (List.getElem?_eq_some_iff.mp found).1
      let shaped := session.changeBridge index fun bridge => { bridge with shape := some shape }
      have kept : shaped.bridge index = { bridge with shape := some shape } := by
        rw [Session.bridge_changeBridge_self _ bound, own]
      have placed : shaped.bridges[index]? = some { bridge with shape := some shape } := by
        simp [shaped, Session.changeBridge, found]
      exact
        { before := own ▸ fresh
          stopped := kept ▸ fresh
          shell := rfl
          around := ⟨rfl, rfl, rfl, session.changeBridge_length index _⟩
          others := fun other different => session.bridge_changeBridge_of_ne _ different
          bridge := by rw [kept, own]
          unchanged := fun free => absurd (own ▸ fixed) free
          learned := by
            rw [kept, own]
            cases known : bridge.shape with
            | none => exact .inr ⟨rfl, congrArg Except.toOption detected⟩
            | some earlier =>
                exact .inl ((detectShape_eq_of_isSome detected (known ▸ rfl)).trans known)
          later := by
            intro shell shellPresent
            rw [start_fixed { shaped with shell, shellPresent } placed fresh fixed,
              start_fixed { session with shell, shellPresent } found fresh fixed, detectShape_map]
            rfl }

theorem start_failed_unsupported :
    let attached := (Change.attach {}).apply (Session.new { version := "1.14.7" } .bare)
    start 0 attached = (.error (.unsupportedVersion "1.14.7"), attached) ∧
      StartFailure 0 attached attached := by
  intro attached
  have found : attached.bridges[0]? = some { settings := {} } := rfl
  have failed : start 0 attached = (.error (.unsupportedVersion "1.14.7"), attached) :=
    start_undetected found rfl rfl
  exact ⟨failed, start_failed failed⟩

theorem shape_kept_by_failed_start :
    let settings : Settings := { scriptNamespace := "NaN" }
    let attached := (Change.attach settings).apply (Session.new {} .bare)
    settings.problem? = none ∧ (attached.bridge 0).shape = none ∧
      ∃ (fault : Fault) (after : Session), start 0 attached = (.error fault, after) ∧
        (after.bridge 0).shape = some .version3 := by
  intro settings attached
  have found : attached.bridges[0]? = some { settings := settings } := rfl
  have fixed : settings.scriptNamespace ∈ readOnlyNames := by decide
  exact ⟨by decide, rfl, _, _,
    start_unmade found rfl rfl (Script.Engine.withShell_error fixed), rfl⟩

end Bridge

end ScriptedShell
