import ScriptedShell.Proofs.FileLookup
import ScriptedShell.Proofs.TomlDocument
import ScriptedShell.Settings.Source

/-!
Saved settings. The document that `TomlForm.write` makes of settings is read back as the same settings,
from a text as from the file that holds it.
-/

namespace ScriptedShell

namespace Settings.TomlForm

open Toml (Line Document Node)
open Toml.Reader

def lines (settings : Settings) : List (Option Line) :=
  [some (.entry ["builtin_name"] (.text settings.builtinName)),
    some (.entry ["namespace"] (.text settings.scriptNamespace)),
    some (.entry ["version_variable"] (.text settings.versionVariable)),
    none, some (.header ["host"] false),
    some (.entry ["version"] (.text settings.host.version)),
    some (.entry ["max_call_depth"] (.integer settings.host.maxCallDepth.toNat)),
    none, some (.header ["logging"] false),
    some (.entry ["level"] (.text settings.logging.level.name)),
    some (.entry ["ansi"] (.boolean settings.logging.ansi))]

def document (settings : Settings) : Document where
  root :=
    [("builtin_name", .value (.text settings.builtinName)),
      ("namespace", .value (.text settings.scriptNamespace)),
      ("version_variable", .value (.text settings.versionVariable)),
      ("host", .table .header
        [("version", .value (.text settings.host.version)),
          ("max_call_depth", .value (.integer settings.host.maxCallDepth.toNat))]),
      ("logging", .table .header
        [("level", .value (.text settings.logging.level.name)),
          ("ansi", .value (.boolean settings.logging.ansi))])]
  header := ["logging"]

theorem addAll_lines (settings : Settings) :
    Document.addAll {} (lines settings) = some (document settings) := by
  simp [lines, document, Document.addAll, Document.add, Toml.Entries.descend, Toml.Entries.insert,
    Toml.Entries.alter, Toml.Entries.openTable]

theorem depth?_toNat (depth : UInt64) : depth? (.integer depth.toNat) = some depth := by
  have below : (depth.toNat : Int) < Int.ofNat (Nat.pow 2 64) := Int.ofNat_lt.mpr depth.toNat_lt
  rw [depth?, if_pos ⟨Int.natCast_nonneg _, below⟩, Int.toNat_natCast, UInt64.ofNat_toNat]

theorem level?_name (level : LogLevel) : level? (.text level.name) = some level := by
  cases level <;> rfl

theorem host?_table {version : String} {toml : Toml} {depth : UInt64}
    (read : depth? toml = some depth) :
    host? (.table [("version", .text version), ("max_call_depth", toml)]) =
      some { version, maxCallDepth := depth } := by
  simp [host?, fields?, Toml.entry?, List.lookup_cons, text?, read]

theorem logging?_table (level : LogLevel) (ansi : Bool) :
    logging? (.table [("level", .text level.name), ("ansi", .boolean ansi)]) =
      some { level, ansi } := by
  simp [logging?, fields?, Toml.entry?, List.lookup_cons, level?_name, boolean?]

theorem settings?_table {builtinName scriptNamespace versionVariable : String} {host logging : Toml}
    {hostSettings : HostSettings} {loggingSettings : LoggingSettings}
    (hostRead : host? host = some hostSettings) (loggingRead : logging? logging = some loggingSettings) :
    settings? (.table [("builtin_name", .text builtinName), ("namespace", .text scriptNamespace),
        ("version_variable", .text versionVariable), ("host", host), ("logging", logging)]) =
      some
        { builtinName, scriptNamespace, versionVariable
          host := hostSettings
          logging := loggingSettings } := by
  simp [settings?, fields?, Toml.entry?, List.lookup_cons, text?, optional, hostRead, loggingRead]

theorem settings?_document (settings : Settings) :
    settings? (.table (Toml.entriesToToml (document settings).root)) = some settings :=
  settings?_table (host?_table (depth?_toNat settings.host.maxCallDepth))
    (logging?_table settings.logging.level settings.logging.ansi)

def texts (settings : Settings) : List (List Char) :=
  let entry := fun (key : String) (value : String) =>
    key.toList ++ " = ".toList ++ value.toList ++ ['\n']
  let header := fun (key : String) => '[' :: key.toList ++ "]\n".toList
  [entry "builtin_name" (Toml.writeString settings.builtinName),
    entry "namespace" (Toml.writeString settings.scriptNamespace),
    entry "version_variable" (Toml.writeString settings.versionVariable),
    ['\n'], header "host",
    entry "version" (Toml.writeString settings.host.version),
    entry "max_call_depth" (toString settings.host.maxCallDepth.toNat),
    ['\n'], header "logging",
    entry "level" (Toml.writeString settings.logging.level.name),
    entry "ansi" (writeBoolean settings.logging.ansi)]

theorem write_toList (settings : Settings) :
    (write settings).toList = (texts settings).flatten := by
  simp [write, texts, line]

theorem fills_boolean (value : Bool) : Fills (writeBoolean value).toList (.boolean value) := by
  cases value with
  | true => exact fills_true
  | false => exact fills_false

theorem reads_lines (settings : Settings) :
    List.Forall₂ ReadsLine (texts settings) (lines settings) := by
  have entry (key : String) {characters : List Char} {value : Toml} (bare : IsBareKey key.toList)
      (fills : Fills characters value) :
      ReadsLine (key.toList ++ " = ".toList ++ characters ++ ['\n']) (some (.entry [key] value)) := by
    have read := ReadsLine.entry bare fills
    rwa [String.ofList_toList] at read
  have header (key : String) (bare : IsBareKey key.toList) :
      ReadsLine ('[' :: key.toList ++ "]\n".toList) (some (.header [key] false)) := by
    have read := ReadsLine.header bare
    rwa [String.ofList_toList] at read
  refine .cons (entry "builtin_name" (by decide) (fills_text _)) ?_
  refine .cons (entry "namespace" (by decide) (fills_text _)) ?_
  refine .cons (entry "version_variable" (by decide) (fills_text _)) ?_
  refine .cons .blank (.cons (header "host" (by decide)) ?_)
  refine .cons (entry "version" (by decide) (fills_text _)) ?_
  refine .cons (entry "max_call_depth" (by decide) (fills_number _)) ?_
  refine .cons .blank (.cons (header "logging" (by decide)) ?_)
  refine .cons (entry "level" (by decide) (fills_text _)) ?_
  exact .cons (entry "ansi" (by decide) (fills_boolean _)) .nil

theorem texts_flatten (settings : Settings) :
    ∃ rest, (texts settings).flatten = 'b' :: rest ∧ (texts settings).length ≤ rest.length := by
  simp [texts]

theorem read_write (settings : Settings) : read (write settings) = .ok settings := by
  obtain ⟨rest, begins, long⟩ := texts_flatten settings
  have enough : (texts settings).length < (texts settings).flatten.length + 1 := by
    rw [begins, List.length_cons]
    omega
  have unmarked : Toml.skipByteOrderMark (write settings).toList = (texts settings).flatten := by
    rw [write_toList, begins]
    rfl
  have ran := readDocument_lines (reads_lines settings) (addAll_lines settings) enough
  have parsed : Toml.read (write settings) =
      some (Toml.entriesToToml (document settings).root) := by
    rw [Toml.read, unmarked]
    simp only [StateT.run, ran]
  rw [read, parsed, Option.bind_some, settings?_document]

end Settings.TomlForm

namespace Settings

/-- Settings come back from the document that is made of them: all texts, numbers and names in it are read
as what they were. So they come back from the file that they are saved to; only the null device, which
keeps nothing, gives nothing back. -/
theorem saved_settings_reload (settings : Settings) :
    TomlForm.read (TomlForm.write settings) = .ok settings ∧
      ∀ (files after : FileTree) (path : String), settings.save files path = .ok after →
        readToml after path = .ok settings ∨
          after = files ∧ ∃ target, files.locate path = .ok (.present target .null) := by
  refine ⟨TomlForm.read_write settings, fun files after path saved => ?_⟩
  have written : files.write path (TomlForm.write settings).toUTF8 = .ok after := by
    rw [save] at saved
    split at saved
    · rename_i files' written
      rw [written]
      exact congrArg Except.ok (Except.ok.inj saved)
    · contradiction
  refine (FileTree.readText_of_write written).imp_left fun read => ?_
  have text : readText after path = .ok (TomlForm.write settings) := by
    rw [readText, read]
  simp only [readToml, text, bind, Except.bind, TomlForm.read_write]

def hardToWrite : Settings where
  builtinName := "\n\"\"\"\\'"
  scriptNamespace := "\x00\r\t'''\"\"\"\x7f"
  versionVariable := "\"it's\""
  host := { version := "C:\\", maxCallDepth := 18446744073709551615 }

theorem locate_bare : FileTree.bare.locate "to" = .ok (.free ["work", "to"]) := by
  have target : FileTree.IsBareName "to" := by decide
  rw [target.locate_eq]
  rfl

theorem saved_settings_reload_hardToWrite :
    ∃ after, hardToWrite.save .bare "to" = .ok after ∧ readToml after "to" = .ok hardToWrite := by
  obtain ⟨_, reload⟩ := saved_settings_reload hardToWrite
  let after := FileTree.bare.put ["work", "to"] (.file (TomlForm.write hardToWrite).toUTF8)
  have saved : hardToWrite.save .bare "to" = .ok after := by
    rw [save, FileTree.write, if_neg (by decide), if_neg (by decide), if_neg (by decide +kernel),
      locate_bare]
  refine ⟨after, saved, (reload .bare after "to" saved).resolve_right ?_⟩
  rintro ⟨_, target, located⟩
  rw [locate_bare] at located
  cases located

end Settings

end ScriptedShell
