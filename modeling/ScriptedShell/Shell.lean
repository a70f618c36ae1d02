import ScriptedShell.Command
import ScriptedShell.Fault
import ScriptedShell.Settings
import ScriptedShell.Variable
import ScriptedShell.Word.Template

/-!
The state of a shell and the expansion of words, which only reads it.
-/

namespace ScriptedShell

inductive Extension where
  | bridge (index : Nat)
  /-- Notes its arguments and ends with a fixed status. -/
  | recorder (name : String) (status : Status)
deriving DecidableEq, Repr, Inhabited

structure Shell where
  settings : HostSettings
  /-- The shape of the records it runs; a shell of an unknown version runs none. -/
  shape : Option RecordShape
  bindings : Variables
  functions : Table Command := ∅
  extensions : Table Extension := ∅
  /-- The arguments of the functions that are running, the innermost first. -/
  frames : List (List String) := []
  depth : Nat := 0
  lastStatus : Status := .success

namespace Shell

def name : String := "mini-shell"

def versionVariable : String := "BASH_VERSION"

def new (settings : HostSettings) : Shell where
  settings
  shape := RecordShape.ofVersion? settings.version
  bindings := Variables.assign ∅ versionVariable settings.version

def arguments (shell : Shell) : List String :=
  shell.frames.headD []

def position? (digits : List Char) : Option Nat :=
  if digits.isEmpty then none
  else some (digits.foldl (fun number digit => 10 * number + (digit.toNat - '0'.toNat)) 0)

def argumentAt (shell : Shell) (digits : List Char) : String :=
  match position? digits with
  | some (index + 1) => shell.arguments.getD index ""
  | _ => ""

/-- What a parameter stands for. Names of digits only are positions, and a name without a value
stands for nothing. -/
def parameter (shell : Shell) (name : String) : String :=
  if name = "?" then shell.lastStatus.text
  else if name = "#" then toString shell.arguments.length
  else if name = "@" ∨ name = "*" then " ".intercalate shell.arguments
  else if name = "0" then Shell.name
  else if name.toList.all Char.isDigit then shell.argumentAt name.toList
  else (shell.bindings.value? name).getD ""

def expandText (shell : Shell) (text : String) : String :=
  Template.fill shell.parameter text

def allArguments : String := "$@"

/-- The fields of a word. What is expanded is neither split nor expanded again. -/
def expandWord (shell : Shell) (word : Word) : List String :=
  if !word.flags.hasDollar || word.flags.noExpand then [word.text]
  else if word.text = allArguments then shell.arguments
  else
    let text := shell.expandText word.text
    if text.isEmpty && !word.flags.quoted then [] else [text]

def expandWords (shell : Shell) (words : List Word) : List String :=
  words.flatMap shell.expandWord

/-- The assignments of a command that consists of nothing else. -/
def assignments? (words : List Word) : Option (List (String × String)) :=
  if words.isEmpty then none else words.mapM Word.assignment?

def assign (shell : Shell) (name value : String) : Shell :=
  { shell with bindings := shell.bindings.assign name value }

def assignAll (shell : Shell) (assignments : List (String × String)) : Shell :=
  assignments.foldl (fun shell (name, value) => shell.assign name (shell.expandText value)) shell

def defineFunction (shell : Shell) (name : String) (body : Command) : Shell :=
  { shell with functions := shell.functions.insert name body }

def extend (shell : Shell) (name : String) (extension : Extension) : Shell :=
  { shell with extensions := shell.extensions.insert name extension }

def enterFunction (shell : Shell) (arguments : List String) : Shell :=
  { shell with frames := arguments :: shell.frames, depth := shell.depth + 1 }

def leaveFunction (shell : Shell) : Shell :=
  { shell with frames := shell.frames.tail, depth := shell.depth - 1 }

def finish (shell : Shell) (status : Status) : Shell :=
  { shell with lastStatus := status }

def diagnosticStart (line : Int32) : String :=
  if 0 < line then name ++ ": line " ++ toString line.toInt ++ ": " else name ++ ": "

end Shell

def Command.make (shape : Option RecordShape) (words : List Word) : Except Fault Command :=
  match shape with
  | some shape => .ok (.ofWords shape words)
  | none => .error (.unsupportedVersion "host flavor not detected")

end ScriptedShell
