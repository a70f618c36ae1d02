import ScriptedShell.File.Tree
import ScriptedShell.Text.Blank
import ScriptedShell.Text.Identifier
import ScriptedShell.Text.Quoted

/-!
Settings of a bridge and of the shell it is attached to. Any texts can be set; `Settings.problem?`
says which settings are of no use.
-/

namespace ScriptedShell

inductive LogLevel where
  | trace
  | debug
  | info
  | warn
  | error
deriving DecidableEq, Repr, Inhabited

namespace LogLevel

def all : List LogLevel :=
  [.trace, .debug, .info, .warn, .error]

def name : LogLevel → String
  | .trace => "trace"
  | .debug => "debug"
  | .info => "info"
  | .warn => "warn"
  | .error => "error"

def ofName? (name : String) : Option LogLevel :=
  all.find? fun level => level.name == name

/-- The level that a text asks for, in letters of either case; the failure is the message. -/
def parse (text : String) : Except String LogLevel :=
  let lower := text.map Char.toLower
  if lower = "warning" then .ok .warn
  else
    match ofName? lower with
    | some level => .ok level
    | none => .error ("unknown log level: " ++ lower)

end LogLevel

structure HostSettings where
  version : String := "5.2.21(1)-release"
  maxCallDepth : UInt64 := 256
deriving DecidableEq, Repr, Inhabited

structure LoggingSettings where
  level : LogLevel := .warn
  ansi : Bool := false
deriving DecidableEq, Repr, Inhabited

structure Settings where
  builtinName : String := "bridge"
  scriptNamespace : String := "bash"
  versionVariable : String := "BASH_VERSION"
  host : HostSettings := {}
  logging : LoggingSettings := {}
deriving DecidableEq, Repr, Inhabited

inductive SettingsProblem where
  | builtinName (name : String)
  | scriptNamespace (name : String)
  | versionVariable (name : String)
  | emptyVersion
  | noCallDepth
deriving DecidableEq, Repr

def SettingsProblem.message : SettingsProblem → String
  | .builtinName name => "Invalid builtin name: " ++ Quoted.write name
  | .scriptNamespace name => "Invalid script namespace: " ++ Quoted.write name
  | .versionVariable name => "Invalid version variable: " ++ Quoted.write name
  | .emptyVersion => "Host version must not be empty"
  | .noCallDepth => "Invalid max call depth"

inductive SettingsError where
  | unreadable (cause : FileError)
  | malformed
  | invalid (problem : SettingsProblem)
deriving DecidableEq, Repr

def SettingsError.message : SettingsError → String
  | .unreadable cause => "Config file error: " ++ cause.message
  | .malformed => "Config parse error: "
  | .invalid problem => "Config validation error: " ++ problem.message

def shellMarks : List Char :=
  "|&;<>()$`\\\"'=".toList

def isShellName (name : String) : Bool :=
  !name.isEmpty && !name.toList.any fun character =>
    isBlank character || shellMarks.contains character

namespace Settings

def problem? (settings : Settings) : Option SettingsProblem :=
  if !isShellName settings.builtinName then some (.builtinName settings.builtinName)
  else if !isIdentifier settings.scriptNamespace then
    some (.scriptNamespace settings.scriptNamespace)
  else if !isIdentifier settings.versionVariable then
    some (.versionVariable settings.versionVariable)
  else if settings.host.version.isEmpty then some .emptyVersion
  else if settings.host.maxCallDepth = 0 then some .noCallDepth
  else none

def validate (settings : Settings) : Except SettingsError Settings :=
  match settings.problem? with
  | some problem => .error (.invalid problem)
  | none => .ok settings

end Settings

end ScriptedShell
