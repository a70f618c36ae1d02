import ScriptedShell.Script.Chunk
import ScriptedShell.Shell

/-!
Bridges between a shell and a script engine: their state, the requests that reach them as a command,
and the shell functions that call into a script.
-/

namespace ScriptedShell

structure Bridge where
  settings : Settings
  /-- The shape of the records it makes, known since its first successful look at the version. -/
  shape : Option RecordShape := none
  engine : Option Script.Engine := none
  /-- A chunk is being loaded or a script function is running. -/
  busy : Bool := false
deriving Inhabited

namespace Bridge

def isInitialized (bridge : Bridge) : Bool :=
  bridge.engine.isSome

end Bridge

inductive BridgeRequest where
  | start
  | load (path : String)
  | call (function : String) (arguments : List Word)
deriving DecidableEq, Repr

namespace BridgeRequest

def ofWords (words : List Word) : Except Fault BridgeRequest :=
  match words with
  | [] => .error (.malformedRequest "missing sub-command")
  | command :: rest =>
    match command.text with
    | "init" => .ok .start
    | "load" =>
      match rest with
      | path :: _ =>
        if path.text.isEmpty then .error (.malformedRequest "load: missing chunk path")
        else .ok (.load path.text)
      | [] => .error (.malformedRequest "load: missing chunk path")
    | "call" =>
      match rest with
      | function :: arguments =>
        if function.text.isEmpty then .error (.malformedRequest "call: missing function name")
        else .ok (.call function.text arguments)
      | [] => .error (.malformedRequest "call: missing function name")
    | other => .error (.malformedRequest ("unknown sub-command '" ++ other ++ "'"))

end BridgeRequest

/-- The arguments that a script function gets: the words that are not empty. -/
def scriptArguments (words : List Word) : List String :=
  (words.map Word.text).filter fun text => !text.isEmpty

def bridgeVersion : String := "shell bridge 0.1.0"

def bridgeUsage (name : String) : String :=
  bridgeVersion ++ "\nusage:\n\t" ++ name ++ " init\n\t" ++ name ++ " load <script chunk>\n\t"
    ++ name ++ " call <script function> [arguments]\nnote: while a script function runs, `"
    ++ name ++ " call` (and registered functions)\ncannot be used from commands it starts; "
    ++ "such calls fail with status 1"

def forwardingBody (shape : Option RecordShape) (builtinName name : String) :
    Except Fault Command :=
  Command.make shape
    [.ofText builtinName, .ofText "call", .ofText name, .ofText Shell.allArguments]

def Shell.registerFunction (shell : Shell) (shape : Option RecordShape)
    (builtinName name : String) : Except Fault Shell :=
  if name.isEmpty then .error (.malformedRequest "register: empty function name")
  else
    match forwardingBody shape builtinName name with
    | .ok body => .ok (shell.defineFunction name body)
    | .error fault => .error fault

end ScriptedShell
