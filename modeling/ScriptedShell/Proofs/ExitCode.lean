import ScriptedShell.CommandLine
import ScriptedShell.Proofs.CommandName
import ScriptedShell.Proofs.LastStatus
import ScriptedShell.Proofs.SettingsSearch
import ScriptedShell.Proofs.StatusSource
import ScriptedShell.Proofs.VariableHistory
import ScriptedShell.Script.Standard

/-!
The exit code of the program. It is the last status of its shell, of which the system keeps eight bits, so
it is zero for every multiple of 256; and no status but a script's can be one, zero apart.
-/

namespace ScriptedShell

namespace Status

theorem processCode_eq_zero_iff (status : Status) : status.processCode = 0 ↔ 256 ∣ status.toInt := by
  have small : (status.toInt % 256).toNat < UInt8.size := by
    change _ < 256
    omega
  rw [processCode, ← UInt8.toNat_inj, UInt8.toNat_ofNat_of_lt' small]
  change (status.toInt % 256).toNat = 0 ↔ _
  omega

theorem Ordinary.processCode_eq_zero_iff {status : Status} (ordinary : status.Ordinary) :
    status.processCode = 0 ↔ status = .success := by
  obtain ⟨low, high⟩ := ordinary
  have zero : Status.success.toInt = 0 := rfl
  rw [Status.processCode_eq_zero_iff, ← Int32.toInt_inj, zero]
  omega

end Status

namespace CommandLine

def readableLines : List (List UInt8 × Bool) → List String
  | [] => []
  | (line, ended) :: rest =>
    match decodeLine line ended with
    | some text => text :: readableLines rest
    | none => []

/-- What the program asks of its session: to run the script that is named, or the lines of the input one
after the other. -/
def operations (invocation : Invocation) : List (Operation .command) :=
  match invocation.arguments with
  | path :: _ =>
    match invocation.files.readText path with
    | .ok source => [.script source]
    | .error _ => []
  | [] => (readableLines (splitInput [] invocation.input.toList)).map .line

theorem runInput_shell [Script.Language] (lines : List (List UInt8 × Bool)) (session : Session) :
    ((runInput lines).after session).shell =
      (session.afterAll ((readableLines lines).map .line)).shell := by
  induction lines generalizing session with
  | nil => rfl
  | cons first rest ih =>
      obtain ⟨line, ended⟩ := first
      rw [runInput, readableLines]
      cases decodeLine line ended with
      | some text => exact ih _
      | none => rfl

theorem runCommands_eq [Script.Language] {invocation : Invocation} {session : Session}
    (readable : ∀ path ∈ invocation.arguments.head?,
      ∃ source, invocation.files.readText path = .ok source)
    (supplied : session.files = invocation.files) :
    (runCommands invocation session).1 = (runCommands invocation session).2.shell.lastStatus ∧
      (runCommands invocation session).2.shell =
        (session.afterAll (operations invocation)).shell := by
  cases named : invocation.arguments with
  | nil =>
      simp only [runCommands, operations, named]
      exact ⟨rfl, runInput_shell _ session⟩
  | cons path rest =>
      obtain ⟨source, read⟩ := readable path (by rw [named]; rfl)
      have ran : runCommands invocation session = Session.runScript source session := by
        simp only [runCommands, named]
        rw [runFile, Run.get_bind, supplied, read]
      rw [ran]
      refine ⟨(Session.runScript_answersLast source session).symm, ?_⟩
      simp only [operations, named, read]
      rfl

section

variable (settings : Settings) (invocation : Invocation)

theorem openSession_resting : (openSession settings invocation).Resting :=
  (Moment.sound_environment (Session.Reachable.new settings.host invocation.files).resting
    invocation.environment).change (.attach settings)

theorem openSession_within : (openSession settings invocation).shell.Within Status.Ordinary := by
  have shell : (openSession settings invocation).shell =
      ((importEnvironment (Shell.new settings.host) invocation.environment).extend settings.builtinName
        (.bridge 0)) := rfl
  rw [shell, importEnvironment_eq]
  have fresh : Status.success.Ordinary := by decide
  refine ⟨fresh, ?_⟩
  intro name own status found
  simp only [Shell.extend, Table.find?_insert] at found
  split at found
  · cases found
  · cases found

end

end CommandLine

open CommandLine

theorem run_code [Script.Language] {invocation : Invocation} {settings : Settings}
    (loaded : Settings.load invocation.files (Table.ofList invocation.environment) = .ok settings)
    (readable : ∀ path ∈ invocation.arguments.head?,
      ∃ source, invocation.files.readText path = .ok source) :
    (run invocation).code =
      ((runCommands invocation).after (openSession settings invocation)).shell.lastStatus.processCode := by
  rw [run, loaded]
  exact congrArg Status.processCode (runCommands_eq readable rfl).1

/-- Whatever the scripts do, the exit code is zero if and only if the last status is a multiple of 256. If it
is not zero but such a multiple, then a script function that ended on the way had returned it. -/
theorem exit_code_of_last_status [Script.Language] {invocation : Invocation} {settings : Settings}
    (loaded : Settings.load invocation.files (Table.ofList invocation.environment) = .ok settings)
    (readable : ∀ path ∈ invocation.arguments.head?,
      ∃ source, invocation.files.readText path = .ok source) :
    let start := openSession settings invocation
    let last := ((runCommands invocation).after start).shell.lastStatus
    (run invocation).code = last.processCode ∧
      ((run invocation).code = 0 ↔ 256 ∣ last.toInt) ∧
      (last.Ordinary → ((run invocation).code = 0 ↔ last = .success)) ∧
      (last.Ordinary ∨ ∃ config, start.Passes (operations invocation) config ∧
        config.scriptStatus? = some last) := by
  intro start last
  have code : (run invocation).code = last.processCode := run_code loaded readable
  refine ⟨code, ?_, ?_, ?_⟩
  · rw [code]
    exact last.processCode_eq_zero_iff
  · intro ordinary
    rw [code]
    exact ordinary.processCode_eq_zero_iff
  · have supplied : start.files = invocation.files := rfl
    have same : last = (start.afterAll (operations invocation)).shell.lastStatus :=
      congrArg Shell.lastStatus (runCommands_eq readable supplied).2
    rw [same]
    exact Session.last_status_source (openSession_resting settings invocation)
      (openSession_within settings invocation) (operations invocation)

def overflowingChunk : String :=
  "function f() \x7b return 256; \x7d"

theorem withChunk_settings (source : String) :
    Settings.load (withChunk source) (Table.ofList []) = .ok {} := by
  have noToml : (withChunk source).read Settings.tomlPath = .error .notFound := by
    rw [FileTree.read_bare _ Settings.tomlPath_bare]
    rfl
  have noJson : (withChunk source).read Settings.jsonPath = .error .notFound := by
    rw [FileTree.read_bare _ Settings.jsonPath_bare]
    rfl
  have none : Settings.found? (withChunk source) = none := by
    simp [Settings.found?, Settings.searched, Settings.Source.read, Settings.tomlSource,
      Settings.jsonSource, Settings.readText, FileTree.readText, noToml, noJson, Except.toOption,
      bind, Except.bind]
  rw [Settings.load_unnamed rfl, none]
  decide +kernel

def overflowing : Invocation where
  arguments := []
  environment := []
  files := withChunk overflowingChunk
  input := "bridge 'load' 'a.js'\nbridge 'call' 'f'\n".toUTF8

theorem overflowing_readable : ∀ path ∈ overflowing.arguments.head?,
    ∃ source, overflowing.files.readText path = .ok source :=
  nofun

theorem overflowing_operations :
    operations overflowing =
      [.line (commandLine "bridge" ["load", "a.js"]), .line (commandLine "bridge" ["call", "f"])] := by
  have lines : readableLines (splitInput [] overflowing.input.toList) =
      [commandLine "bridge" ["load", "a.js"], commandLine "bridge" ["call", "f"]] := by
    decide +kernel
  exact congrArg (List.map Operation.line) lines

section

open Script

def endsWith (status : Status) : Dialogue (Except Fault Answer × Engine) → Bool
  | .done (.ok (.number value), _) => Status.ofFloat value == status
  | _ => false

theorem exists_of_endsWith {status : Status} {dialogue : Dialogue (Except Fault Answer × Engine)}
    (ends : endsWith status dialogue = true) :
    ∃ (answer : Answer) (last : Engine),
      dialogue = .done (.ok answer, last) ∧ answer.status = .ok status := by
  unfold endsWith at ends
  split at ends
  · rename_i value last
    exact ⟨.number value, last, rfl, congrArg Except.ok (beq_iff_eq.mp ends)⟩
  · contradiction

def overflows (engine : Engine) : Bool :=
  match evaluateChunk "a.js" overflowingChunk engine with
  | .done (.ok (), loaded) => endsWith 256 (callGlobal "f" (scriptArguments []) loaded)
  | _ => false

theorem exists_of_overflows {engine : Engine} (runs : overflows engine = true) :
    ∃ loaded : Engine, evaluateChunk "a.js" overflowingChunk engine = .done (.ok (), loaded) ∧
      endsWith 256 (callGlobal "f" (scriptArguments []) loaded) = true := by
  unfold overflows at runs
  split at runs
  · rename_i loaded ended
    exact ⟨loaded, ended, runs⟩
  · contradiction

theorem overflows_bash : (Engine.withShell "bash").toOption.any overflows = true := by
  decide +kernel

end

theorem Session.runLine_request [Script.Language] {session after : Session} {index : Nat}
    {shape : RecordShape} {name : String} (shellName : isShellName name = true) (shaped : session.shell.shape = some shape)
    (bound : session.shell.extensions.find? name = some (.bridge index))
    (unshadowed : session.shell.functions.find? name = none)
    (noComment : name.toList.head? ≠ some '#') (upright : name ≠ "!") {texts : List String}
    {request : BridgeRequest} {status : Status}
    (read : BridgeRequest.ofWords (texts.map Word.literal) = .ok request)
    (performed : Bridge.perform nested index request session = (.ok status, after)) :
    runLine (commandLine name texts) session =
      (status, { after with shell := after.shell.finish status }) := by
  have answered : runBridgeWords index (texts.map Word.literal) session = (status, after) := by
    rw [runBridgeWords, Bridge.runWords, read]
    exact Run.bind_of_eq session performed _
  rw [runLine_command shellName shaped bound unshadowed noComment upright,
    Run.bind_of_eq session answered]
  rfl

theorem Session.afterAll_lines [Script.Language] (session : Session) (first second : String) :
    session.afterAll [.line first, .line second] = (runLine second (runLine first session).2).2 :=
  rfl

theorem overflowing_last :
    ((runCommands overflowing).after (openSession {} overflowing)).shell.lastStatus = 256 := by
  let start := openSession {} overflowing
  obtain ⟨engine, made, runs⟩ := exists_of_any overflows_bash
  obtain ⟨filled, evaluated, ends⟩ := exists_of_overflows runs
  obtain ⟨answer, last, called, status⟩ := exists_of_endsWith ends
  have ran : Bridge.loadFile (withChunk overflowingChunk) "a.js" engine = .done (.ok (), filled) := by
    rw [Bridge.loadFile, withChunk_readText]
    exact evaluated
  let loaded := start.changeBridge 0 fun bridge =>
    { bridge with shape := some .version3, engine := some filled, busy := false }
  let middle : Session := { loaded with shell := loaded.shell.finish .success }
  let announced := middle.announced 0 "f" []
  let after : Session :=
    { announced.released 0 last with shell := announced.shell.finish 256 }
  have shellName : isShellName "bridge" = true := by decide
  have shaped : start.shell.shape = some .version3 := rfl
  have bound : start.shell.extensions.find? "bridge" = some (.bridge 0) := rfl
  have unshadowed : start.shell.functions.find? "bridge" = none := rfl
  have found : start.bridges[0]? = some { settings := {} } := rfl
  have detected : Bridge.detectShape start { settings := {} } = .ok .version3 := rfl
  have loading : Session.runLine (commandLine "bridge" ["load", "a.js"]) start =
      (.success, middle) := by
    have performed : Bridge.perform Session.nested 0 (.load "a.js") start = (.ok .success, loaded) :=
      Bridge.perform_load (Bridge.load_fresh found rfl rfl detected made ran)
    exact Session.runLine_request shellName shaped bound unshadowed (by decide) (by decide) rfl performed
  have calling : Session.runLine (commandLine "bridge" ["call", "f"]) middle = (256, after) := by
    have conducted : (Script.callGlobal "f" (scriptArguments []) filled).conduct
        (Bridge.answer Session.nested 0) announced = ((.ok answer, last), announced) := by
      rw [called]
      rfl
    have performed : Bridge.perform Session.nested 0 (.call "f" []) middle =
        (.ok 256, announced.released 0 last) := by
      rw [← status]
      exact Bridge.call_idle rfl rfl conducted
    have shaped : middle.shell.shape = some .version3 := shaped
    exact Session.runLine_request shellName shaped bound unshadowed (by decide) (by decide) rfl performed
  have both : start.afterAll (operations overflowing) = after := by
    rw [overflowing_operations, start.afterAll_lines, loading, calling]
  have supplied : start.files = overflowing.files := rfl
  rw [Run.after, (runCommands_eq overflowing_readable supplied).2, both]
  rfl

theorem exit_code_of_last_status_overflowing :
    let start := openSession {} overflowing
    (run overflowing).code = 0 ∧ ∃ config, start.Passes (operations overflowing) config ∧
      config.scriptStatus? = some 256 := by
  intro start
  obtain ⟨_, divided, _, source⟩ :=
    exit_code_of_last_status (withChunk_settings overflowingChunk) overflowing_readable
  rw [overflowing_last] at divided source
  refine ⟨divided.mpr (by decide), ?_⟩
  rcases source with ordinary | passed
  · exact absurd ordinary (by decide)
  · exact passed

theorem failure_reported_as_success :
    let last := ((runCommands overflowing).after (openSession {} overflowing)).shell.lastStatus
    Settings.load overflowing.files (Table.ofList overflowing.environment) = .ok {} ∧
      last = 256 ∧ last ≠ .success ∧ (run overflowing).code = 0 := by
  intro last
  have final : last = 256 := overflowing_last
  have code : (run overflowing).code = last.processCode :=
    run_code (withChunk_settings overflowingChunk) overflowing_readable
  rw [final] at code
  exact ⟨withChunk_settings overflowingChunk, final, final ▸ by decide, code⟩

end ScriptedShell
