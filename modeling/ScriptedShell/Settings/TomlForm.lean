import ScriptedShell.Settings
import ScriptedShell.Toml.Reader
import ScriptedShell.Toml.Writer

/-!
Settings in TOML. A group of settings is a table with its known keys, or an array of the values in
order. Other keys are ignored, as far as their numbers can be used, and so is what follows the values
of an array.
-/

namespace ScriptedShell.Settings.TomlForm

/-- The values of the known keys of a group, by position; absent ones are missing. -/
def fields? (names : List String) : Toml → Option (List (Option Toml))
  | .array items =>
    some ((items.take names.length).map some ++ List.replicate (names.length - items.length) none)
  | .table entries =>
    if entries.all fun (key, value) => names.contains key || value.isUsable then
      some (names.map (Toml.entry? entries))
    else none
  | _ => none

def text? : Toml → Option String
  | .text value => some value
  | _ => none

def boolean? : Toml → Option Bool
  | .boolean value => some value
  | _ => none

def depth? : Toml → Option UInt64
  | .integer value =>
    if 0 ≤ value ∧ value < Int.ofNat (Nat.pow 2 64) then some (UInt64.ofNat value.toNat) else none
  | _ => none

def isEmpty : Toml → Bool
  | .table [] | .array [] => true
  | _ => false

/-- A level is its name, or a table with the name as its only key and nothing in it. -/
def level? : Toml → Option LogLevel
  | .text name => LogLevel.ofName? name
  | .table [(name, value)] => if isEmpty value then LogLevel.ofName? name else none
  | _ => none

def optional {α : Type} (missing : α) (read : Toml → Option α) : Option Toml → Option α
  | none => some missing
  | some toml => read toml

def host? (toml : Toml) : Option HostSettings := do
  match ← fields? ["version", "max_call_depth"] toml with
  | [some version, some depth] =>
    return { version := ← text? version, maxCallDepth := ← depth? depth }
  | _ => none

def logging? (toml : Toml) : Option LoggingSettings := do
  match ← fields? ["level", "ansi"] toml with
  | [some level, some ansi] => return { level := ← level? level, ansi := ← boolean? ansi }
  | _ => none

def settings? (toml : Toml) : Option Settings := do
  match ← fields? ["builtin_name", "namespace", "version_variable", "host", "logging"] toml with
  | [some builtinName, some scriptNamespace, some versionVariable, host, logging] =>
    return {
      builtinName := ← text? builtinName
      scriptNamespace := ← text? scriptNamespace
      versionVariable := ← text? versionVariable
      host := ← optional {} host? host
      logging := ← optional {} logging? logging }
  | _ => none

def read (text : String) : Except SettingsError Settings :=
  match (Toml.read text).bind fun entries => settings? (.table entries) with
  | some settings => .ok settings
  | none => .error .malformed

def line (key value : String) : String :=
  key ++ " = " ++ value ++ "\n"

def writeBoolean (value : Bool) : String :=
  if value then "true" else "false"

def write (settings : Settings) : String :=
  line "builtin_name" (Toml.writeString settings.builtinName)
    ++ line "namespace" (Toml.writeString settings.scriptNamespace)
    ++ line "version_variable" (Toml.writeString settings.versionVariable)
    ++ "\n[host]\n"
    ++ line "version" (Toml.writeString settings.host.version)
    ++ line "max_call_depth" (toString settings.host.maxCallDepth.toNat)
    ++ "\n[logging]\n"
    ++ line "level" (Toml.writeString settings.logging.level.name)
    ++ line "ansi" (writeBoolean settings.logging.ansi)

end ScriptedShell.Settings.TomlForm
