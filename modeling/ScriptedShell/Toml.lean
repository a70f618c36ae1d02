/-!
TOML values. A table lists its keys in the order in which they were written, each once.
-/

namespace ScriptedShell

inductive Toml where
  | text (value : String)
  | integer (value : Int)
  /-- A number with a fraction or an exponent, an infinity, or none at all. -/
  | float (spelling : String)
  | boolean (value : Bool)
  /-- A date, a time, or both. -/
  | moment (spelling : String)
  | array (items : List Toml)
  | table (entries : List (String × Toml))
deriving Inhabited, Repr

def Toml.entry? (entries : List (String × Toml)) (key : String) : Option Toml :=
  entries.lookup key

end ScriptedShell
