import ScriptedShell.Shell.Execution
import ScriptedShell.Word.Lexer

/-!
What can be asked of a session from outside: to run commands, lines and scripts, and to use its
bridges.
-/

namespace ScriptedShell

variable [Script.Language]

namespace Session

def nested : Nested := fun command => do
  let session ← get
  execute session.nestingBound command

def executeCommand (command : Command) : Run Status :=
  nested command

def isInversion (word : Word) : Bool :=
  word.text == "!" && !word.flags.quoted

def splitInversion : List Word → Bool × List Word
  | [] => (false, [])
  | first :: rest => if isInversion first then (true, rest) else (false, first :: rest)

inductive LineContent where
  | nothing
  | refused (complaint : String)
  | command (command : Command)

def readLine (shell : Shell) (number : Int32) (line : String) : LineContent :=
  match lexLine line with
  | .ok [] => .nothing
  | .error error => .refused (Shell.diagnosticStart number ++ error.message)
  | .ok words =>
    let (inverted, words) := splitInversion words
    match Command.make shell.shape words with
    | .ok command =>
      let command := command.atLine number
      .command (if inverted then command.invert else command)
    | .error fault => .refused (Shell.diagnosticStart number ++ fault.message)

def runNumbered (number : Int32) (line : String) : Run Status := do
  let session ← get
  match readLine session.shell number line with
  | .nothing => return session.shell.lastStatus
  | .refused complaint => Execution.refuse complaint
  | .command command => executeCommand command

def runLine (line : String) : Run Status :=
  runNumbered 0 line

def trimReturn (line : List Char) : List Char :=
  match line.getLast? with
  | some '\r' => line.dropLast
  | _ => line

/-- Cuts a text into lines; the line being read is kept backwards. A text that ends with a line end
has no empty line behind it. -/
def splitLines (current : List Char) : List Char → List String
  | [] => if current.isEmpty then [] else [String.ofList current.reverse]
  | '\n' :: rest => String.ofList (trimReturn current.reverse) :: splitLines [] rest
  | character :: rest => splitLines (character :: current) rest

def linesOf (text : String) : List String :=
  splitLines [] text.toList

def lastLineNumber : Nat := 2147483647

def lineNumber (number : Nat) : Int32 :=
  Int32.ofNat (min number lastLineNumber)

def runLines (number : Nat) : List String → Run Unit
  | [] => return
  | line :: rest => do
    let _ ← runNumbered (lineNumber number) line
    runLines (number + 1) rest

def runScript (source : String) : Run Status := do
  runLines 1 (linesOf source)
  let session ← get
  return session.shell.lastStatus

def startBridge (index : Nat) : Run (Except Fault Unit) :=
  Bridge.start index

def loadChunk (index : Nat) (path : String) : Run (Except Fault Unit) :=
  Bridge.load nested index path

def callScript (index : Nat) (function : String) (words : List Word) :
    Run (Except Fault Status) :=
  Bridge.call nested index function words

def runBridgeWords (index : Nat) (words : List Word) : Run Status :=
  Bridge.runWords nested index words

def invoke (shape : Option RecordShape) (words : List String) : Run (Except Fault Status) :=
  Bridge.invoke nested shape words

def register (shape : Option RecordShape) (builtinName name : String) :
    Run (Except Fault Unit) := do
  let session ← get
  match session.shell.registerFunction shape builtinName name with
  | .ok shell =>
    set { session with shell }
    return .ok ()
  | .error fault => return .error fault

end Session

end ScriptedShell
