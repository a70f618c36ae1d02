import Mathlib.Logic.Relation
import ScriptedShell.Session.Operation

/-!
A run, moment by moment. The machine does what the operations of a session do, but keeps what waits for
the piece that runs as data: a stack of commands, functions, scripts and bridge commands. It has no
bound on how deeply they nest. `Machine.step` is one step of it.
-/

namespace ScriptedShell

namespace Machine

open Script (Dialogue HostRequest)

/-- The pieces of a run, told apart by what can wait for their end. -/
inductive Stage where
  | command
  | words
  | request
deriving DecidableEq, Repr

@[reducible]
def Stage.Answer : Stage → Type
  | .command => Status
  | .words => Status
  | .request => Except Fault Status

abbrev Talk := Dialogue (Except Fault Status × Script.Engine)

/-- What waits for the piece that runs, the innermost first. -/
inductive Waiting : Stage → Type where
  | nobody {stage : Stage} : Waiting stage
  /-- The lines of a text that are still to run. -/
  | lines (number : Nat) (rest : List String) (outer : Waiting .command) : Waiting .command
  | function (outer : Waiting .words) : Waiting .command
  /-- A script that has started a command. -/
  | script (index : Nat) (next : Except Fault Status → Script.Engine → Talk)
      (outer : Waiting .request) : Waiting .command
  | command (inverted : Bool) (outer : Waiting .command) : Waiting .words
  | bridge (index : Nat) (outer : Waiting .words) : Waiting .request

inductive Control : Stage → Type where
  | lines (number : Nat) (lines : List String) : Control .command
  | line (number : Int32) (line : String) : Control .command
  | command (command : Command) : Control .command
  | words (line : Int32) (words : List Word) : Control .words
  | bridge (index : Nat) (words : List Word) : Control .words
  | request (index : Nat) (request : BridgeRequest) : Control .request
  | script (index : Nat) (talk : Talk) : Control .request
  | answer {stage : Stage} (answer : stage.Answer) : Control stage

structure Config where
  {stage : Stage}
  control : Control stage
  waiting : Waiting stage
  session : Session

namespace Waiting

variable {stage : Stage}

def hear (waiting : Waiting stage) (answer : stage.Answer) (session : Session) : Config :=
  ⟨.answer answer, waiting, session⟩

/-- The moment at which a piece has ended that runs at once. -/
def await (waiting : Waiting stage) (run : Run stage.Answer) (session : Session) : Config :=
  waiting.hear (run.result session) (run.after session)

end Waiting

def startLine (number : Int32) (line : String) (waiting : Waiting .command) (session : Session) :
    Config :=
  match Session.readLine session.shell number line with
  | .nothing => waiting.hear session.shell.lastStatus session
  | .refused complaint => waiting.await (Execution.refuse complaint) session
  | .command command => ⟨.command command, waiting, session⟩

def startCommand (command : Command) (waiting : Waiting .command) (session : Session) : Config :=
  match Execution.refusal? session.shell command with
  | some complaint => waiting.await (Execution.refuse complaint) session
  | none => ⟨.words command.line command.words, .command command.inverted waiting, session⟩

def startFunction (name : String) (body : Command) (arguments : List String)
    (waiting : Waiting .words) (session : Session) : Config :=
  if session.shell.settings.maxCallDepth.toNat ≤ session.shell.depth then
    waiting.await (Execution.refuseCall name session.shell.settings.maxCallDepth) session
  else
    ⟨.command body, .function waiting,
      { session with shell := session.shell.enterFunction arguments }⟩

def startFields (line : Int32) (fields : List String) (waiting : Waiting .words)
    (session : Session) : Config :=
  match fields with
  | [] => waiting.hear .success session
  | name :: arguments =>
    match session.shell.functions.find? name with
    | some body => startFunction name body arguments waiting session
    | none =>
      match session.shell.extensions.find? name with
      | some (.bridge index) => ⟨.bridge index (arguments.map Word.literal), waiting, session⟩
      | some (.recorder name status) =>
        waiting.await (Execution.record name status (arguments.map Word.literal)) session
      | none =>
        match Execution.runInternal? name arguments with
        | some run => waiting.await run session
        | none => waiting.await (Execution.runProgram line name arguments) session

def startWords (line : Int32) (words : List Word) (waiting : Waiting .words) (session : Session) :
    Config :=
  match Shell.assignments? words with
  | some assignments =>
    waiting.hear .success
      { session with shell := session.shell.assignAll assignments }
  | none => startFields line (session.shell.expandWords words) waiting session

def startBridge (index : Nat) (words : List Word) (waiting : Waiting .words) (session : Session) :
    Config :=
  match BridgeRequest.ofWords words with
  | .error fault => (Waiting.bridge index waiting).hear (.error fault) session
  | .ok request => ⟨.request index request, .bridge index waiting, session⟩

def startScript (index : Nat) (talk : Script.Engine → Session → Talk × Session)
    (waiting : Waiting .request) (session : Session) : Config :=
  match Bridge.enter index session with
  | (.error fault, session) => waiting.hear (.error fault) session
  | (.ok engine, session) =>
    let (talk, session) := talk engine session
    ⟨.script index talk, waiting, session⟩

def talkOf {α : Type} (f : Except Fault α → Except Fault Status)
    (dialogue : Dialogue (Except Fault α × Script.Engine)) : Talk :=
  dialogue.map fun ended => (f ended.1, ended.2)

def loading [Script.Language] (path : String) (engine : Script.Engine) (session : Session) : Talk × Session :=
  (talkOf (·.map fun _ => .success) (Bridge.loadFile session.files path engine), session)

def calling [Script.Library] (index : Nat) (function : String) (words : List Word) (engine : Script.Engine)
    (session : Session) : Talk × Session :=
  let arguments := scriptArguments words
  (talkOf (·.bind Script.Answer.status) (Script.callGlobal function arguments engine),
    (Run.emit (.scriptCalled index function arguments)).after session)

def startRequest [Script.Language] (index : Nat) (request : BridgeRequest) (waiting : Waiting .request)
    (session : Session) : Config :=
  match request with
  | .start =>
    let (result, session) := Bridge.start index session
    waiting.hear (result.map fun _ => .success) session
  | .load path =>
    match Bridge.start index session with
    | (.error fault, session) => waiting.hear (.error fault) session
    | (.ok (), session) => startScript index (loading path) waiting session
  | .call function words => startScript index (calling index function words) waiting session

def noCommands : Nested :=
  fun _ => pure .failure

/-- The next piece of a script: up to its end, or up to its next request and the reply to it. -/
def resume (index : Nat) (talk : Talk) (waiting : Waiting .request) (session : Session) : Config :=
  match talk with
  | .done (result, engine) => waiting.hear result (session.released index engine)
  | .ask engine (.call words) next =>
    let session := session.stored index engine
    match Bridge.commandOfTexts (session.bridge index).shape words with
    | .error reply => ⟨.script index (next reply (session.engine index)), waiting, session⟩
    | .ok command => ⟨.command command, .script index next waiting, session⟩
  | .ask engine request next =>
    let ((reply, engine), session) := Bridge.answer noCommands index engine request session
    ⟨.script index (next reply engine), waiting, session⟩

def deliver {stage : Stage} (answer : stage.Answer) (waiting : Waiting stage) (session : Session) :
    Option Config :=
  match stage, answer, waiting with
  | _, _, .nobody => none
  | .command, _, .lines number rest outer => some ⟨.lines number rest, outer, session⟩
  | .command, status, .function outer =>
    some (outer.hear status { session with shell := session.shell.leaveFunction })
  | .command, status, .script index next outer =>
    some ⟨.script index (next (.ok status) (session.engine index)), outer, session⟩
  | .words, status, .command inverted outer =>
    some (outer.await (Execution.finishCommand inverted status) session)
  | .request, result, .bridge index outer => some (outer.await (Bridge.report index result) session)

/-- One step. There is none when the outermost piece has ended. -/
def step [Script.Language] (config : Config) : Option Config :=
  match config with
  | ⟨control, waiting, session⟩ =>
    match control with
    | .lines _ [] => some (waiting.hear session.shell.lastStatus session)
    | .lines number (line :: rest) =>
      some ⟨.line (Session.lineNumber number) line, .lines (number + 1) rest waiting, session⟩
    | .line number line => some (startLine number line waiting session)
    | .command command => some (startCommand command waiting session)
    | .words line words => some (startWords line words waiting session)
    | .bridge index words => some (startBridge index words waiting session)
    | .request index request => some (startRequest index request waiting session)
    | .script index talk => some (resume index talk waiting session)
    | .answer answer => deliver answer waiting session

def Reaches [Script.Language] : Config → Config → Prop :=
  Relation.ReflTransGen fun config next => step config = some next

end Machine

end ScriptedShell
