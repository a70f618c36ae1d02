import ScriptedShell.Script.Check
import ScriptedShell.Script.Member

/-!
What is left open of a script engine: its parser, and those functions of the language that are not
described one by one. Whatever is said of scripts holds for all of them.
-/

namespace ScriptedShell.Script

/-- The functions of the language that are known by their names only. -/
class Library where
  call : Caller → String → Value → List Value → Action Value
  construct : Caller → String → List Value → Action Value

/-- A chunk that can be run. All its names are checked before anything is done. -/
structure Program where
  check : Action Unit
  checks : check.Checks
  /-- Declares the names and runs the statements. -/
  perform : Action Unit

def Program.run (program : Program) : Action Unit :=
  Action.inFrame .chunk do
    program.check
    program.perform

/-- What an engine makes of a text. -/
inductive Reading where
  | program (program : Program)
  /-- A syntax error, by its own properties. -/
  | refused (error : List (PropertyKey × Property))
  /-- The engine fails, and there is no error object. -/
  | failed (message : String)

class Language extends Library where
  read : String → Reading

def ScriptObject.syntaxError (properties : List (PropertyKey × Property)) : ScriptObject where
  objectClass := .failure
  prototype := some (Intrinsic.prototypeOf .syntaxError)
  properties := properties

def Reading.refuse (properties : List (PropertyKey × Property)) : Action Unit := do
  Action.throwValue (← Action.allocate (.syntaxError properties))

theorem Reading.refuse_complains (properties : List (PropertyKey × Property)) (engine : Engine) :
    (refuse properties).Complains engine (.syntaxError properties) :=
  rfl

end ScriptedShell.Script
