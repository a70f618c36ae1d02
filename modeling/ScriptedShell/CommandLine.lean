import ScriptedShell.Session.Operation
import ScriptedShell.Settings.Source

/-!
The program as a function: from its arguments, environment, files and input to its exit code and what
it writes.
-/

namespace ScriptedShell

variable [Script.Language]

structure Invocation where
  arguments : List String
  environment : List (String × String)
  files : FileTree
  input : ByteArray

structure Exit where
  code : UInt8
  output : String := ""
  diagnostics : String := ""
deriving DecidableEq, Repr

namespace CommandLine

def programName : String := "shell-bridge"

def badSettings : UInt8 := 2

/-- A shell that has the variables of its environment, exported. It keeps a version of its own. -/
def importEnvironment (shell : Shell) (environment : List (String × String)) : Shell :=
  environment.foldl
    (fun shell (name, value) =>
      if name = Shell.versionVariable then shell
      else
        { shell with
          bindings := (shell.bindings.assign name value).markExported name }) shell

def complain (text : String) : Run Unit :=
  Run.emit (.diagnostic (programName ++ ": " ++ text ++ "\n"))

def runFile (path : String) : Run Status := do
  let session ← get
  match session.files.readText path with
  | .ok source => Session.runScript source
  | .error cause =>
    complain (path ++ ": " ++ cause.message)
    return .notFound

/-- Cuts bytes at line feeds; the line being read is kept backwards. The flag says whether a line
feed ends the line. -/
def splitInput (current : List UInt8) : List UInt8 → List (List UInt8 × Bool)
  | [] => if current.isEmpty then [] else [(current.reverse, false)]
  | byte :: rest =>
    if byte = 10 then (current.reverse, true) :: splitInput [] rest
    else splitInput (byte :: current) rest

def decodeLine (line : List UInt8) (ended : Bool) : Option String :=
  (String.fromUTF8? ⟨line.toArray⟩).map fun text =>
    if ended then String.ofList (Session.trimReturn text.toList) else text

def runInput : List (List UInt8 × Bool) → Run Unit
  | [] => return
  | (line, ended) :: rest => do
    match decodeLine line ended with
    | some text =>
      let _ ← Session.runLine text
      runInput rest
    | none => complain FileError.notUtf8.message

def runStandardInput (input : ByteArray) : Run Status := do
  runInput (splitInput [] input.toList)
  let session ← get
  return session.shell.lastStatus

def outputOf (events : List Event) : String :=
  String.join (events.filterMap fun event =>
    match event with
    | .output text => some text
    | _ => none)

def diagnosticsOf (events : List Event) : String :=
  String.join (events.filterMap fun event =>
    match event with
    | .diagnostic text => some text
    | _ => none)

def openSession (settings : Settings) (invocation : Invocation) : Session :=
  let session := (Session.new settings.host invocation.files)
  let session := { session with
    shell := importEnvironment session.shell invocation.environment }
  session.attach settings

def runCommands (invocation : Invocation) : Run Status :=
  match invocation.arguments with
  | path :: _ => runFile path
  | [] => runStandardInput invocation.input

def run (invocation : Invocation) : Exit :=
  match Settings.load invocation.files (Table.ofList invocation.environment) with
  | .error error =>
    { code := badSettings
      diagnostics := programName ++ ": " ++ error.message ++ "\n" }
  | .ok settings =>
    let (status, session) := (runCommands invocation).run (openSession settings invocation)
    let (events, _) := session.takeEvents
    { code := status.processCode
      output := outputOf events
      diagnostics := diagnosticsOf events }

end CommandLine

end ScriptedShell
