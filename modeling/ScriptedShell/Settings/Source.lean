import ScriptedShell.Settings.JsonForm
import ScriptedShell.Settings.TomlForm
import ScriptedShell.Table

/-!
Where settings come from: a file, or two files that are looked for, then the environment.
-/

namespace ScriptedShell

abbrev Environment := Table String

namespace Settings

def pathVariable : String := "SHELL_BRIDGE_CONFIG"

def tomlPath : String := "shell-bridge.toml"

def jsonPath : String := "shell-bridge.json"

def fileName? (path : String) : Option String :=
  match ((path.splitOn "/").filter fun name => name ≠ "" && name ≠ ".").getLast? with
  | some name => if name = ".." then none else some name
  | none => none

/-- What follows the last dot of a file's name; a dot in front starts no extension. -/
def extension? (path : String) : Option String := do
  let name ← fileName? path
  let reversed := name.toList.reverse
  let extension := (reversed.takeWhile (· ≠ '.')).reverse
  match reversed.dropWhile (· ≠ '.') with
  | [] | ['.'] => none
  | _ => return String.ofList extension

def readText (files : FileTree) (path : String) : Except SettingsError String :=
  match files.readText path with
  | .ok text => .ok text
  | .error cause => .error (.unreadable cause)

def readToml (files : FileTree) (path : String) : Except SettingsError Settings := do
  TomlForm.read (← readText files path)

def readJson (files : FileTree) (path : String) : Except SettingsError Settings := do
  JsonForm.read (← readText files path)

def ofFile (files : FileTree) (path : String) : Except SettingsError Settings :=
  if extension? path = some "json" then readJson files path else readToml files path

/-- Replaces settings by what the environment says. A level that is none is ignored. -/
def override (settings : Settings) (environment : Environment) : Settings :=
  let text := fun (name former : String) => (environment.find? name).getD former
  let level := (environment.find? "SHELL_BRIDGE_LOG_LEVEL").bind fun text =>
    (LogLevel.parse text).toOption
  { settings with
    builtinName := text "SHELL_BRIDGE_BUILTIN" settings.builtinName
    scriptNamespace := text "SHELL_BRIDGE_NAMESPACE" settings.scriptNamespace
    versionVariable := text "SHELL_BRIDGE_VERSION_VARIABLE" settings.versionVariable
    host := { settings.host with
      version := text "SHELL_BRIDGE_HOST_VERSION" settings.host.version }
    logging := { settings.logging with level := level.getD settings.logging.level } }

/-- The settings before the environment's overrides. A named file must be right; of the files that
are looked for the first that can be read and is right counts. -/
def base (files : FileTree) (environment : Environment) : Except SettingsError Settings :=
  match environment.find? pathVariable with
  | some path => ofFile files path
  | none =>
    match readToml files tomlPath, readJson files jsonPath with
    | .ok settings, _ => .ok settings
    | .error _, .ok settings => .ok settings
    | .error _, .error _ => .ok {}

def load (files : FileTree) (environment : Environment) : Except SettingsError Settings := do
  let settings ← base files environment
  (settings.override environment).validate

def save (settings : Settings) (files : FileTree) (path : String) :
    Except SettingsError FileTree :=
  match files.write path (TomlForm.write settings).toUTF8 with
  | .ok files => .ok files
  | .error cause => .error (.unreadable cause)

end Settings

end ScriptedShell
