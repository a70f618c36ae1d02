import ScriptedShell.Session

/-!
What bridges do: start their engine, load chunks and call script functions. A script that acts on the
shell may start commands, so each operation is given the means to run one.
-/

namespace ScriptedShell

abbrev Nested := Command → Run Status

namespace Bridge

def detectShape (session : Session) (bridge : Bridge) : Except Fault RecordShape :=
  if session.shellPresent then
    let name := bridge.settings.versionVariable
    match session.shell.bindings.value? name with
    | none => .error (.unsupportedVersion (name ++ " is not set"))
    | some version =>
      match RecordShape.ofVersion? version with
      | some shape => .ok (bridge.shape.getD shape)
      | none => .error (.unsupportedVersion version)
  else .error .hostGone

/-- Reads a command that is given as texts; the failure is the reply where there is none to run. -/
def commandOfTexts (shape : Option RecordShape) (words : List String) :
    Except (Except Fault Status) Command :=
  if words.isEmpty then .error (.ok .notFound)
  else (Command.make shape (words.map Word.ofText)).mapError .error

def invoke (nested : Nested) (shape : Option RecordShape) (words : List String) :
    Run (Except Fault Status) := do
  match commandOfTexts shape words with
  | .error reply => return reply
  | .ok command => return .ok (← nested command)

def environment (shell : Shell) : List (String × Option String) :=
  shell.bindings.snapshot.map fun entry => (entry.name, entry.value)

def reply (nested : Nested) (bridge : Bridge) :
    (request : Script.HostRequest) → Run request.Reply
  | .presence => do
    let session ← get
    return if session.shellPresent then .ok () else .error .hostGone
  | .register name => do
    let session ← get
    match session.shell.registerFunction bridge.shape bridge.settings.builtinName name with
    | .ok shell =>
      set { session with shell }
      return .ok ()
    | .error fault => return .error fault
  | .getVariable name => do
    let session ← get
    return session.shell.bindings.value? name
  | .setVariable name value => Run.changeShell fun shell => shell.assign name value
  | .environment => do
    let session ← get
    return environment session.shell
  | .call words => invoke nested bridge.shape words
  | .print line => Run.emit (.output (line ++ "\n"))
  | .log level line => Run.emit (.logged level line)

def answer (nested : Nested) (index : Nat) (engine : Script.Engine)
    (request : Script.HostRequest) : Run (request.Reply × Script.Engine) := do
  modify fun session => session.stored index engine
  let session ← get
  let reply ← reply nested (session.bridge index) request
  let session ← get
  return (reply, session.engine index)

theorem answer_call_error {nested : Nested} {session : Session} {index : Nat}
    {engine : Script.Engine} {words : List String} {reply : Except Fault Status}
    (read : commandOfTexts ((session.stored index engine).bridge index).shape words =
      .error reply) :
    answer nested index engine (.call words) session =
      ((reply, (session.stored index engine).engine index), session.stored index engine) := by
  change (invoke nested ((session.stored index engine).bridge index).shape words >>= fun reply => do
    let session ← get
    return (reply, session.engine index)) (session.stored index engine) = _
  rw [invoke, read]
  rfl

theorem answer_call_ok {nested : Nested} {session : Session} {index : Nat}
    {engine : Script.Engine} {words : List String} {command : Command}
    (read : commandOfTexts ((session.stored index engine).bridge index).shape words = .ok command) :
    answer nested index engine (.call words) session =
      let after := (nested command).after (session.stored index engine)
      ((.ok ((nested command).result (session.stored index engine)), after.engine index), after) := by
  change (invoke nested ((session.stored index engine).bridge index).shape words >>= fun reply => do
    let session ← get
    return (reply, session.engine index)) (session.stored index engine) = _
  rw [invoke, read]
  rfl

/-- Takes a bridge's engine into use. It cannot be taken again until it is put back. -/
def enter (index : Nat) : Run (Except Fault Script.Engine) := do
  let bridge := (← get).bridge index
  match bridge.engine with
  | none => return .error .notInitialized
  | some engine =>
    if bridge.busy then return .error .engineBusy
    else
      modify fun session => session.occupied index
      return .ok engine

section

variable {session : Session} {index : Nat} {engine : Script.Engine}

theorem enter_absent (absent : (session.bridge index).engine = none) :
    enter index session = (.error .notInitialized, session) := by
  unfold enter
  simp only [Run.get_bind, absent]
  rfl

theorem enter_busy (present : (session.bridge index).engine = some engine)
    (busy : (session.bridge index).busy = true) :
    enter index session = (.error .engineBusy, session) := by
  unfold enter
  simp only [Run.get_bind, present, busy]
  rfl

theorem enter_idle (present : (session.bridge index).engine = some engine)
    (idle : (session.bridge index).busy = false) :
    enter index session = (.ok engine, session.occupied index) := by
  unfold enter
  simp only [Run.get_bind, present, idle]
  rfl

theorem enter_cases (index : Nat) (session : Session) :
    (∃ fault, enter index session = (.error fault, session)) ∨
      ∃ engine, (session.bridge index).engine = some engine ∧
        (session.bridge index).busy = false ∧
        enter index session = (.ok engine, session.occupied index) := by
  cases present : (session.bridge index).engine with
  | none => exact .inl ⟨_, enter_absent present⟩
  | some engine =>
      cases idle : (session.bridge index).busy with
      | true => exact .inl ⟨_, enter_busy present idle⟩
      | false => exact .inr ⟨engine, rfl, rfl, enter_idle present idle⟩

end

def leave (index : Nat) (engine : Script.Engine) : Run Unit :=
  modify fun session => session.released index engine

def converse {α : Type} (nested : Nested) (index : Nat)
    (dialogue : Script.Dialogue (Except Fault α × Script.Engine)) : Run (Except Fault α) := do
  let (result, engine) ← dialogue.conduct (answer nested index)
  leave index engine
  return result

variable [Script.Language]

/-- Starts a bridge's engine; a bridge that has one is left alone. -/
def start (index : Nat) : Run (Except Fault Unit) := do
  let session ← get
  match session.bridges[index]? with
  | none => return .error .notInitialized
  | some bridge =>
    if bridge.isInitialized then return .ok ()
    else
      match detectShape session bridge with
      | .error fault => return .error fault
      | .ok shape =>
        Run.changeBridge index fun bridge => { bridge with shape := some shape }
        match Script.Engine.withShell bridge.settings.scriptNamespace with
        | .error fault => return .error fault
        | .ok engine =>
          Run.changeBridge index fun bridge => { bridge with engine := some engine }
          return .ok ()

def loadFile (files : FileTree) (path : String) : Script.Use Unit :=
  fun engine =>
    match files.readText path with
    | .ok source => Script.evaluateChunk path source engine
    | .error cause => .done (.error (.chunkNotLoaded path cause.message), engine)

def load (nested : Nested) (index : Nat) (path : String) : Run (Except Fault Unit) := do
  match ← start index with
  | .error fault => return .error fault
  | .ok () =>
    match ← enter index with
    | .error fault => return .error fault
    | .ok engine =>
      let session ← get
      converse nested index (loadFile session.files path engine)

def call (nested : Nested) (index : Nat) (function : String) (words : List Word) :
    Run (Except Fault Status) := do
  match ← enter index with
  | .error fault => return .error fault
  | .ok engine =>
    let arguments := scriptArguments words
    Run.emit (.scriptCalled index function arguments)
    let result ← converse nested index (Script.callGlobal function arguments engine)
    return result.bind Script.Answer.status

def perform (nested : Nested) (index : Nat) : BridgeRequest → Run (Except Fault Status)
  | .start => return (← start index).map fun _ => .success
  | .load path => return (← load nested index path).map fun _ => .success
  | .call function arguments => call nested index function arguments

def complaint (name : String) (fault : Fault) : String :=
  match fault with
  | .malformedRequest _ => bridgeUsage name ++ "\n"
  | .unexpectedResult _ => name ++ ": " ++ fault.message ++ "\n"
  | _ => name ++ " error: " ++ fault.message ++ "\n"

def report (index : Nat) : Except Fault Status → Run Status
  | .ok status => return status
  | .error fault => do
    let session ← get
    Run.emit (.diagnostic (complaint (session.bridge index).settings.builtinName fault))
    return fault.status

def runWords (nested : Nested) (index : Nat) (words : List Word) : Run Status := do
  let result ← match BridgeRequest.ofWords words with
    | .error fault => pure (.error fault)
    | .ok request => perform nested index request
  report index result

end Bridge

end ScriptedShell
