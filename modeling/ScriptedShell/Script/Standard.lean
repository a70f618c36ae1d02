import ScriptedShell.Script.Chunk
import ScriptedShell.Script.SourceReader

/-!
The engine that runs here: it reads the scripts that have a tree, and does not know the functions of
the language that are not described.
-/

namespace ScriptedShell.Script

namespace Standard

def notSupported (what : String) : String :=
  what ++ " is not supported"

def complain (name : String) : Action Value :=
  Action.fail .internalError (Utf16.encode (notSupported name))

@[reducible]
def library : Library where
  call _ name _ _ := complain name
  construct _ name _ := complain name

def errorProperties (message : String) (line : Nat) : List (PropertyKey × Property) :=
  let place := "    at " ++ Engine.sourceName ++ ":" ++ toString line ++ "\n"
  [(.named "message", .hidden (.ofString message)),
    (.named "fileName", .hidden (.ofString Engine.sourceName)),
    (.named "lineNumber", .hidden (.ofNat line)),
    (.named "stack", .hidden (.ofString place))]

def positionOf (character : Char) (text : String) : Option Nat :=
  let before := text.toList.takeWhile (· ≠ character)
  if before.length < text.length then some (String.ofList before).utf8ByteSize else none

/-- A text reaches the parser up to its end only if it holds no null character. -/
def read (text : String) : Reading :=
  match positionOf '\x00' text with
  | some position =>
    .failed ("String contained internal null bytes: nul byte found in provided data at position: "
      ++ toString position)
  | none =>
    match SourceReader.read text with
    | .ok statements => .program (@Program.ofStatements library statements)
    | .error ⟨.refused message, line⟩ => .refused (errorProperties message line)
    | .error ⟨.unsupported form, _⟩ => .failed (notSupported form)

end Standard

instance Language.standard : Language where
  toLibrary := Standard.library
  read := Standard.read

end ScriptedShell.Script
