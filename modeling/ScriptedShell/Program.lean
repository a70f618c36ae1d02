import ScriptedShell.File.Tree
import ScriptedShell.Program.Interpreter
import ScriptedShell.Status

/-!
Child programs: finding one by its name, and what its end means for the shell.
-/

namespace ScriptedShell

inductive StartError where
  | notFound
  | refused (cause : FileError)
  /-- A NUL byte in the name, an argument or an exported value. -/
  | nulByte
deriving DecidableEq, Repr

namespace Program

def defaultSearchPath : String := "/usr/bin:/bin"

/-- Tries the directories of a search path in order. A candidate that is there but may not be
executed counts only when none is found. -/
def search (tree : FileTree) (name : String) (directories : List String) (denied : Bool) :
    Except StartError Unit :=
  match directories with
  | [] => .error (if denied then .refused .permissionDenied else .notFound)
  | directory :: rest =>
    let candidate := if directory = "" then name else directory ++ "/" ++ name
    match tree.execute candidate with
    | .ok () => .ok ()
    | .error .permissionDenied => search tree name rest true
    | .error .notFound | .error .notADirectory => search tree name rest denied
    | .error cause => .error (.refused cause)

/-- Whether a program of this name can be started. A name with a slash is a path. -/
def find (tree : FileTree) (searchPath name : String) : Except StartError Unit :=
  if name = "" then .error .notFound
  else if name.toList.contains '/' then
    match tree.execute name with
    | .ok () => .ok ()
    | .error .notFound => .error .notFound
    | .error cause => .error (.refused cause)
  else if FileTree.longestName < name.utf8ByteSize then .error (.refused .nameTooLong)
  else search tree name (searchPath.splitOn ":") false

def hasNul (text : String) : Bool :=
  text.toList.contains '\x00'

def start (tree : FileTree) (name : String) (arguments : List String)
    (exports : List (String × String)) : Except StartError Interpreter.Result :=
  if hasNul name || arguments.any hasNul
      || exports.any (fun (key, value) => hasNul key || hasNul value) then
    .error .nulByte
  else
    let environment := Table.ofList exports
    match find tree ((environment.find? "PATH").getD defaultSearchPath) name with
    | .error error => .error error
    | .ok () =>
      .ok (Interpreter.run (fun path => (tree.readText path).toOption) environment arguments)

end Program

def Interpreter.Ending.status : Interpreter.Ending → Status
  | .exited code => Int32.ofNat code
  | .signalled signal => .endedBySignal signal

end ScriptedShell
