import ScriptedShell.Bridge.Operation

/-!
Running commands. `executeWith` runs one command and is given the means to run those inside it;
`execute` ties the knot, with a bound on how deeply commands nest.
-/

namespace ScriptedShell

variable [Script.Language]

namespace Execution

def finish (status : Status) : Run Status := do
  Run.changeShell fun shell => shell.finish status
  return status

def finishCommand (inverted : Bool) (status : Status) : Run Status :=
  finish (if inverted then status.inverted else status)

def refuse (complaint : String) : Run Status := do
  Run.emit (.diagnostic (complaint ++ "\n"))
  finish .failure

def shapeName (shape : Option RecordShape) : String :=
  (shape.map RecordShape.name).getD "unrecognized"

def nestingComplaint (name : String) (limit : UInt64) : String :=
  Shell.name ++ ": " ++ name ++ ": maximum function nesting level exceeded ("
    ++ toString limit.toNat ++ ")\n"

def refuseCall (name : String) (limit : UInt64) : Run Status := do
  Run.emit (.diagnostic (nestingComplaint name limit))
  return .failure

def callFunction (nested : Nested) (name : String) (body : Command) (arguments : List String) :
    Run Status := do
  let session ← get
  if session.shell.settings.maxCallDepth.toNat ≤ session.shell.depth then
    refuseCall name session.shell.settings.maxCallDepth
  else
    Run.changeShell fun shell => shell.enterFunction arguments
    let status ← nested body
    Run.changeShell Shell.leaveFunction
    return status

def record (name : String) (status : Status) (words : List Word) : Run Status := do
  Run.emit (.recorded name words)
  return status

def runExtension (nested : Nested) (words : List Word) : Extension → Run Status
  | .bridge index => Bridge.runWords nested index words
  | .recorder name status => record name status words

def runInternal? (name : String) (arguments : List String) : Option (Run Status) :=
  if name = "true" ∨ name = ":" then some (pure .success)
  else if name = "false" then some (pure .failure)
  else if name = "echo" then
    some do
      Run.emit (.output (" ".intercalate arguments ++ "\n"))
      return .success
  else none

def startComplaint : StartError → String
  | .notFound => "command not found"
  | .refused cause => cause.message
  | .nulByte => "nul byte found in provided data"

def runProgram (line : Int32) (name : String) (arguments : List String) : Run Status := do
  let session ← get
  match Program.start session.files name arguments session.shell.bindings.exports with
  | .ok result =>
    Run.emit (.programStarted name arguments)
    Run.emitText .output result.output
    Run.emitText .diagnostic result.diagnostics
    return result.ending.status
  | .error error =>
    Run.emit (.diagnostic
      (Shell.diagnosticStart line ++ name ++ ": " ++ startComplaint error ++ "\n"))
    return if error = .notFound then .notFound else .notExecutable

/-- Runs fields as a command. Functions come first, then extensions, then the shell's own commands,
then programs. -/
def runFields (nested : Nested) (line : Int32) : List String → Run Status
  | [] => return .success
  | name :: arguments => do
    let session ← get
    match session.shell.functions.find? name with
    | some body => callFunction nested name body arguments
    | none =>
      match session.shell.extensions.find? name with
      | some extension => runExtension nested (arguments.map Word.literal) extension
      | none =>
        match runInternal? name arguments with
        | some run => run
        | none => runProgram line name arguments

def runWords (nested : Nested) (line : Int32) (words : List Word) : Run Status := do
  match Shell.assignments? words with
  | some assignments =>
    Run.changeShell fun shell => shell.assignAll assignments
    return .success
  | none =>
    let session ← get
    runFields nested line (session.shell.expandWords words)

def refusal? (shell : Shell) (command : Command) : Option String :=
  if shell.shape ≠ some command.shape then
    some (Shell.name ++ ": refusing " ++ command.shape.name ++ " command record on a "
      ++ shapeName shell.shape ++ " host")
  else if !command.redirections.isEmpty then
    some (Shell.diagnosticStart command.line ++ "redirections are not supported")
  else none

def executeWith (nested : Nested) (command : Command) : Run Status := do
  let session ← get
  match refusal? session.shell command with
  | some complaint => refuse complaint
  | none =>
    let status ← runWords nested command.line command.words
    finishCommand command.inverted status

end Execution

/-- Runs a command; the first argument bounds how deeply commands nest. -/
def execute : Nat → Command → Run Status
  | 0, _ => do
    Run.emit .nestingExhausted
    return .failure
  | bound + 1, command => Execution.executeWith (execute bound) command

end ScriptedShell
