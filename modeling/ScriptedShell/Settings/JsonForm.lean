import ScriptedShell.Json.Reader
import ScriptedShell.Settings

/-!
Settings in JSON. A group of settings is an object with its known members, each at most once, or an
array of them in order. Other members are ignored, but for their names, which must be texts.
-/

namespace ScriptedShell.Settings.JsonForm

def fields? (names : List String) : Json → Option (List (Option Json))
  | .array items =>
    if items.length ≤ names.length then
      some (items.map some ++ List.replicate (names.length - items.length) none)
    else none
  | .object members => do
    let members ← members.mapM Json.namedMember?
    names.mapM fun name =>
      match members.filter fun member => member.1 == name with
      | [] => some none
      | [(_, value)] => some (some value)
      | _ => none
  | _ => none

def boolean? : Json → Option Bool
  | .boolean value => some value
  | _ => none

def depth? : Json → Option UInt64
  | .number value => (value.toNat? (Nat.pow 2 64)).map UInt64.ofNat
  | _ => none

/-- A level is its name, or an object with the name as its only member and nothing in it. -/
def level? : Json → Option LogLevel
  | .string units => (Json.string units).text?.bind LogLevel.ofName?
  | .object [member] => do
    match ← Json.namedMember? member with
    | (name, .null) => LogLevel.ofName? name
    | _ => none
  | _ => none

def optional {α : Type} (missing : α) (read : Json → Option α) : Option Json → Option α
  | none => some missing
  | some json => read json

def host? (json : Json) : Option HostSettings := do
  match ← fields? ["version", "max_call_depth"] json with
  | [some version, some depth] =>
    return { version := ← version.text?, maxCallDepth := ← depth? depth }
  | _ => none

def logging? (json : Json) : Option LoggingSettings := do
  match ← fields? ["level", "ansi"] json with
  | [some level, some ansi] => return { level := ← level? level, ansi := ← boolean? ansi }
  | _ => none

def settings? (json : Json) : Option Settings := do
  match ← fields? ["builtin_name", "namespace", "version_variable", "host", "logging"] json with
  | [some builtinName, some scriptNamespace, some versionVariable, host, logging] =>
    return {
      builtinName := ← builtinName.text?
      scriptNamespace := ← scriptNamespace.text?
      versionVariable := ← versionVariable.text?
      host := ← optional {} host? host
      logging := ← optional {} logging? logging }
  | _ => none

def read (text : String) : Except SettingsError Settings :=
  match (Json.read text).bind settings? with
  | some settings => .ok settings
  | none => .error .malformed

end ScriptedShell.Settings.JsonForm
