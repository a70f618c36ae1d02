import ScriptedShell.Proofs.ScriptFault
import ScriptedShell.Script.Standard

/-!
The protocol by which a bridge lends its engine. A load or a call is refused as busy exactly when
another one is active on the bridge; a refusal changes nothing, and whatever a script ends with, its
engine is put back.
-/

namespace ScriptedShell

section

variable {α β : Type}

theorem error_ne {fault : Fault} (other : fault ≠ .engineBusy) :
    (.error fault : Except Fault α) ≠ .error .engineBusy :=
  fun busy => other (Except.error.inj busy)

theorem fault_ne {fault : Fault} (other : (.error fault : Except Fault α) ≠ .error .engineBusy) :
    fault ≠ .engineBusy :=
  fun busy => other (congrArg Except.error busy)

theorem bind_ne {result : Except Fault α} {next : α → Except Fault β}
    (first : result ≠ .error .engineBusy) (rest : ∀ value, next value ≠ .error .engineBusy) :
    result.bind next ≠ .error .engineBusy := by
  cases result with
  | error fault => exact error_ne (fault_ne first)
  | ok value => exact rest value

end

namespace Script

def NotBusy {α : Type} (ended : Except Fault α × Engine) : Prop :=
  ended.1 ≠ .error .engineBusy

theorem Fails.notBusy {α : Type} {kind : Fault → Prop} {ended : Except Fault α × Engine}
    (fails : Fails kind ended) (other : ¬ kind .engineBusy) : NotBusy ended :=
  fun busy => other (fails .engineBusy busy)

theorem callGlobal_notBusy [Library] (name : String) (arguments : List String) (engine : Engine) :
    (callGlobal name arguments engine).Ends NotBusy :=
  (callGlobal_fails name arguments engine).mono fun _ fails =>
    fails.notBusy (by simp [Fault.ofScript])

theorem loadFile_notBusy [Language] (files : FileTree) (path : String) (engine : Engine) :
    (Bridge.loadFile files path engine).Ends NotBusy :=
  (loadFile_fails files path engine).mono fun _ fails => fails.notBusy (by decide)

theorem status_ne (answer : Answer) : answer.status ≠ .error .engineBusy :=
  fun busy => absurd (status_fails busy) (by decide)

theorem ofInstallation_ne (installed : Dialogue (Outcome Unit × Engine)) :
    Engine.ofInstallation installed ≠ .error .engineBusy := by
  unfold Engine.ofInstallation
  split
  · exact nofun
  · exact nofun

theorem withShell_ne [Library] (name : String) : Engine.withShell name ≠ .error .engineBusy :=
  ofInstallation_ne _

end Script

namespace Bridge

variable {nested : Nested} {session : Session} {index : Nat}

theorem start_initialized [Script.Language] (started : (session.bridge index).isInitialized = true) :
    start index session = (.ok (), session) := by
  obtain ⟨engine, present⟩ := Option.isSome_iff_exists.mp started
  have found : session.bridges[index]? = some (session.bridge index) := by
    rw [List.getElem?_eq_getElem (Session.bound_of_engine present)]
    simp [Session.bridge, List.getD, Session.bound_of_engine present]
  unfold start
  simp only [Run.get_bind, found, started, if_true]
  rfl

theorem detectShape_ne (session : Session) (bridge : Bridge) :
    detectShape session bridge ≠ .error .engineBusy := by
  unfold detectShape
  split
  · dsimp only
    split
    · exact nofun
    · split
      · exact nofun
      · exact nofun
  · exact nofun

theorem start_notBusy [Script.Language] (index : Nat) (session : Session) :
    (start index).result session ≠ .error .engineBusy := by
  unfold start
  simp only [Run.result_bind, Run.result_get, Run.after_get]
  split
  · exact nofun
  · split
    · exact nofun
    · split
      · rename_i detected
        exact error_ne (fault_ne (detected ▸ detectShape_ne session _))
      · split
        · rename_i failed
          exact error_ne (fault_ne (failed ▸ Script.withShell_ne _))
        · exact nofun

theorem converse_notBusy {α : Type}
    {dialogue : Script.Dialogue (Except Fault α × Script.Engine)}
    (ends : dialogue.Ends Script.NotBusy) (session : Session) :
    (converse nested index dialogue).result session ≠ .error .engineBusy :=
  ends.conduct (answer nested index) session

theorem enter_notBusy (idle : (session.bridge index).busy = false) :
    (enter index).result session ≠ .error .engineBusy := by
  cases present : (session.bridge index).engine with
  | none =>
      rw [Run.result, enter_absent present]
      simp
  | some engine =>
      rw [Run.result, enter_idle present idle]
      simp

theorem load_notBusy [Script.Language] (path : String) (idle : (session.bridge index).busy = false) :
    (load nested index path).result session ≠ .error .engineBusy := by
  have kept := start_keeps index session
  unfold load
  rw [Run.result_bind]
  split
  · rename_i failed
    exact failed ▸ start_notBusy index session
  · let started := (start index).after session
    have idle : (started.bridge index).busy = false := (kept.bridges index).busy.trans idle
    change (enter index >>= _ : Run _).result started ≠ _
    rcases enter_cases index started with ⟨fault, same⟩ | ⟨engine, present, _, same⟩
    · have refused := enter_notBusy idle
      rw [Run.result, same] at refused
      rw [Run.result, Run.bind_of_eq started same]
      exact error_ne (fault_ne refused)
    · rw [Run.result, Run.bind_of_eq started same]
      exact converse_notBusy (Script.loadFile_notBusy _ path engine) _

theorem call_notBusy [Script.Language] (function : String) (words : List Word)
    (idle : (session.bridge index).busy = false) :
    (call nested index function words).result session ≠ .error .engineBusy := by
  unfold call
  rcases enter_cases index session with ⟨fault, same⟩ | ⟨engine, present, _, same⟩
  · have refused := enter_notBusy idle
    rw [Run.result, same] at refused
    rw [Run.result, Run.bind_of_eq session same]
    exact error_ne (fault_ne refused)
  · rw [Run.result, Run.bind_of_eq session same]
    have ends := Script.callGlobal_notBusy function (scriptArguments words) engine
    exact bind_ne (converse_notBusy ends _) Script.status_ne

theorem perform_notBusy [Script.Language] (request : BridgeRequest) (idle :
    (session.bridge index).busy = false) :
    (perform nested index request).result session ≠ .error .engineBusy := by
  cases request with
  | start => exact bind_ne (start_notBusy index session) fun _ => nofun
  | load path => exact bind_ne (load_notBusy path idle) fun _ => nofun
  | call function words => exact call_notBusy function words idle

theorem perform_busy [Script.Language] {request : BridgeRequest} (working : request ≠ .start)
    (started : (session.bridge index).isInitialized = true)
    (busy : (session.bridge index).busy = true) :
    perform nested index request session = (.error .engineBusy, session) := by
  obtain ⟨engine, present⟩ := Option.isSome_iff_exists.mp started
  have refused := enter_busy present busy
  cases request with
  | start => contradiction
  | load path =>
      rw [perform, load, bind_assoc, Run.bind_of_eq session (start_initialized started)]
      simp only [bind_assoc]
      rw [Run.bind_of_eq session refused]
      rfl
  | call function words =>
      rw [perform, call, Run.bind_of_eq session refused]
      rfl

theorem runWords_busy [Script.Language] {words : List Word} {request : BridgeRequest}
    (read : BridgeRequest.ofWords words = .ok request) (working : request ≠ .start)
    (started : (session.bridge index).isInitialized = true)
    (busy : (session.bridge index).busy = true) :
    runWords nested index words session =
      report index (.error .engineBusy) session := by
  unfold runWords
  simp only [read]
  rw [Run.bind_of_eq session (perform_busy working started busy)]

end Bridge

namespace Machine

theorem startScript_busy {index : Nat} {talk : Script.Engine → Session → Talk × Session}
    {waiting : Waiting .request} {session : Session}
    (started : (session.bridge index).isInitialized = true)
    (busy : (session.bridge index).busy = true) :
    startScript index talk waiting session = waiting.hear (.error .engineBusy) session := by
  obtain ⟨engine, present⟩ := Option.isSome_iff_exists.mp started
  rw [startScript, Bridge.enter_busy present busy]

theorem startRequest_busy [Script.Language] {index : Nat} {request : BridgeRequest}
    {waiting : Waiting .request} {session : Session} (working : request ≠ .start)
    (started : (session.bridge index).isInitialized = true)
    (busy : (session.bridge index).busy = true) :
    startRequest index request waiting session = waiting.hear (.error .engineBusy) session := by
  cases request with
  | start => contradiction
  | load path =>
      rw [startRequest, Bridge.start_initialized started]
      exact startScript_busy started busy
  | call function words =>
      rw [startRequest]
      exact startScript_busy started busy

/-- How bridges lend their engines, at a moment of a run. -/
structure EngineProtocol [Script.Language] (config : Config) : Prop where
  /-- No two loads or calls are active on one bridge. -/
  once : config.scripts.Nodup
  busy : ∀ index, (config.session.bridge index).busy = true ↔ index ∈ config.scripts
  /-- Where one is active, another one is refused, and the session stays as it is. -/
  refused : ∀ index ∈ config.scripts, ∀ request : BridgeRequest, request ≠ .start →
    Bridge.perform Session.nested index request config.session =
      (.error .engineBusy, config.session)
  refusedWords : ∀ index ∈ config.scripts, ∀ (words : List Word) (request : BridgeRequest),
    BridgeRequest.ofWords words = .ok request → request ≠ .start →
    Bridge.runWords Session.nested index words config.session =
      (.failure,
        (Run.emit (.diagnostic (Bridge.complaint
          (config.session.bridge index).settings.builtinName .engineBusy))).after config.session)
  /-- The refusal is one step, and what waits goes on waiting. -/
  refusedStep : ∀ {index : Nat} {request : BridgeRequest} {waiting : Waiting .request}
    {session : Session}, config = ⟨.request index request, waiting, session⟩ →
    index ∈ config.scripts → request ≠ .start →
    step config = some (waiting.hear (.error .engineBusy) session)
  /-- Where none is active, a load or a call is not refused. It leaves the bridge idle, so the next one
  is not refused either. -/
  lent : ∀ index ∉ config.scripts, ∀ request : BridgeRequest,
    let performed := Bridge.perform Session.nested index request
    performed.result config.session ≠ .error .engineBusy ∧
      ((performed.after config.session).bridge index).busy = false ∧
      ∀ next : BridgeRequest, (Bridge.perform Session.nested index next).result
        (performed.after config.session) ≠ .error .engineBusy
  /-- Whatever a script ends with, the bridge is idle then. -/
  returned : ∀ {index : Nat} {talk : Talk} {waiting : Waiting .request} {session : Session},
    config = ⟨.script index talk, waiting, session⟩ →
    ∃ (result : Except Fault Status) (after : Session),
      Reaches config (waiting.hear result after) ∧ (after.bridge index).busy = false

/-- The protocol holds at every moment of every run, however deeply lines, scripts and commands nest
and however many bridges there are. -/
theorem engine_protocol [Script.Language] {stage : Stage} (operation : Operation stage) {start : Session}
    {config : Config} (resting : start.Resting) (reaches : Reaches (begin operation start) config) :
    EngineProtocol config := by
  have balanced := balanced_reaches (balanced_begin operation resting) reaches
  have idle : ∀ index ∉ config.scripts, (config.session.bridge index).busy = false := by
    intro index absent
    rw [← balanced.busy index] at absent
    exact Bool.eq_false_of_not_eq_true absent
  refine
    { once := balanced.once
      busy := balanced.busy
      refused := ?refused
      refusedWords := ?refusedWords
      refusedStep := ?refusedStep
      lent := ?lent
      returned := ?returned }
  case refused =>
    intro index active request working
    exact Bridge.perform_busy working (balanced.started index active)
      ((balanced.busy index).mpr active)
  case refusedWords =>
    intro index active words request read working
    exact Bridge.runWords_busy read working (balanced.started index active)
      ((balanced.busy index).mpr active)
  case refusedStep =>
    rintro index request waiting session rfl active working
    exact congrArg some (startRequest_busy working (balanced.started index active)
      ((balanced.busy index).mpr active))
  case lent =>
    intro index absent request
    have kept := Bridge.perform_keeps Session.nested_keeps index request
      config.session
    have after := (kept.bridges index).busy.trans (idle index absent)
    exact ⟨Bridge.perform_notBusy request (idle index absent), after,
      fun next => Bridge.perform_notBusy next after⟩
  case returned =>
    rintro index talk waiting session rfl
    have ended := reaches_meaning balanced
    have later := balanced_reaches balanced ended
    refine ⟨_, _, ended, Bool.eq_false_of_not_eq_true ?_⟩
    exact mt (later.busy index).mp (List.nodup_cons.mp balanced.once).1

theorem engine_protocol_during_call :
    ∃ config : Config, Reaches (begin (.request 0 (.call "print" [])) printing) config ∧
      config.scripts = [0] ∧ EngineProtocol config := by
  let config := startRequest 0 (.call "print" []) .nobody printing
  have entered : Bridge.enter 0 printing = (.ok printer, _) := Bridge.enter_idle rfl rfl
  have reaches : Reaches (begin (.request 0 (.call "print" [])) printing) config := .single rfl
  have active : config.scripts = [0] := by
    simp only [config, startRequest, startScript, entered]
    rfl
  exact ⟨config, reaches, active, engine_protocol _ printing_resting reaches⟩

end Machine

end ScriptedShell
