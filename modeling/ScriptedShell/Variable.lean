import ScriptedShell.Table
import ScriptedShell.Word

/-!
Shell variables. An exported variable carries the text `name=value` that child programs receive;
`assign` and `markExported` keep that text in step with the value.
-/

namespace ScriptedShell

structure Variable where
  name : String
  /-- Absent in a variable that is only declared. -/
  value : Option String := none
  exported : Bool := false
  exportText : Option String := none
deriving DecidableEq, Repr

namespace Variable

def assign (entry : Variable) (value : String) : Variable :=
  { entry with
    value := some value
    exportText := if entry.exported then some (entry.name ++ "=" ++ value) else entry.exportText }

def markExported (entry : Variable) : Variable :=
  { entry with
    exported := true
    exportText := entry.value.map fun value => entry.name ++ "=" ++ value }

end Variable

abbrev Variables := Table Variable

namespace Variables

def value? (bindings : Variables) (name : String) : Option String :=
  (bindings.find? name).bind (·.value)

def assign (bindings : Variables) (name value : String) : Variables :=
  bindings.insert name (((bindings.find? name).getD { name }).assign value)

def declare (bindings : Variables) (name : String) : Variables :=
  match bindings.find? name with
  | some _ => bindings
  | none => bindings.insert name { name }

def markExported (bindings : Variables) (name : String) : Variables :=
  match bindings.find? name with
  | some entry => bindings.insert name entry.markExported
  | none => bindings

def snapshot (bindings : Variables) : List Variable :=
  bindings.entries.map (·.2)

def exports (bindings : Variables) : List (String × String) :=
  bindings.snapshot.filterMap fun entry => entry.exportText.bind splitAtEquals

end Variables

end ScriptedShell
