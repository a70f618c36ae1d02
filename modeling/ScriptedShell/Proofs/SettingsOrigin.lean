import ScriptedShell.Proofs.SettingsSearch

/-!
Where settings come from. Settings that are taken into use are valid, and they are those of one file, or
the defaults, with the texts of the environment in place of some.
-/

namespace ScriptedShell

namespace Settings

variable {files : FileTree} {environment : Environment}

def form (path : String) : String → Except SettingsError Settings :=
  if extension? path = some "json" then JsonForm.read else TomlForm.read

theorem ofFile_eq (files : FileTree) (path : String) :
    ofFile files path = readText files path >>= form path := by
  rw [ofFile, form]
  split
  · rfl
  · rfl

/-- The settings that there are before the environment replaces any. -/
inductive Origin (files : FileTree) (environment : Environment) : Settings → Prop where
  | named {path text : String} {settings : Settings}
      (named : environment.find? pathVariable = some path)
      (read : files.readText path = .ok text) (parsed : form path text = .ok settings) :
      Origin files environment settings
  | toml {settings : Settings} (unnamed : environment.find? pathVariable = none)
      (read : readToml files tomlPath = .ok settings) : Origin files environment settings
  | json {settings : Settings} {error : SettingsError}
      (unnamed : environment.find? pathVariable = none)
      (noToml : readToml files tomlPath = .error error)
      (read : readJson files jsonPath = .ok settings) : Origin files environment settings
  | default {tomlError jsonError : SettingsError}
      (unnamed : environment.find? pathVariable = none)
      (noToml : readToml files tomlPath = .error tomlError)
      (noJson : readJson files jsonPath = .error jsonError) : Origin files environment {}

/-- A text of the environment, or what there was if the environment has none. -/
inductive Replaced (environment : Environment) (name former : String) : String → Prop where
  | given {text : String} (set : environment.find? name = some text) :
      Replaced environment name former text
  | kept (unset : environment.find? name = none) : Replaced environment name former former

inductive LevelReplaced (environment : Environment) (name : String) (former : LogLevel) :
    LogLevel → Prop where
  | given {text : String} {level : LogLevel} (set : environment.find? name = some text)
      (parsed : LogLevel.parse text = .ok level) : LevelReplaced environment name former level
  | ignored {text message : String} (set : environment.find? name = some text)
      (unparsed : LogLevel.parse text = .error message) :
      LevelReplaced environment name former former
  | kept (unset : environment.find? name = none) : LevelReplaced environment name former former

structure Overridden (environment : Environment) (base settings : Settings) : Prop where
  builtinName : Replaced environment "SHELL_BRIDGE_BUILTIN" base.builtinName settings.builtinName
  scriptNamespace :
    Replaced environment "SHELL_BRIDGE_NAMESPACE" base.scriptNamespace settings.scriptNamespace
  versionVariable :
    Replaced environment "SHELL_BRIDGE_VERSION_VARIABLE" base.versionVariable settings.versionVariable
  version : Replaced environment "SHELL_BRIDGE_HOST_VERSION" base.host.version settings.host.version
  level :
    LevelReplaced environment "SHELL_BRIDGE_LOG_LEVEL" base.logging.level settings.logging.level
  maxCallDepth : settings.host.maxCallDepth = base.host.maxCallDepth
  ansi : settings.logging.ansi = base.logging.ansi

theorem replaced_iff {name former text : String} :
    Replaced environment name former text ↔ text = (environment.find? name).getD former := by
  constructor
  · intro replaced
    cases replaced with
    | given set => rw [set, Option.getD_some]
    | kept unset => rw [unset, Option.getD_none]
  · rintro rfl
    cases set : environment.find? name with
    | none => exact .kept set
    | some text => exact .given set

theorem levelReplaced_iff {name : String} {former level : LogLevel} :
    LevelReplaced environment name former level ↔
      level = ((environment.find? name).bind fun text =>
        (LogLevel.parse text).toOption).getD former := by
  constructor
  · intro replaced
    cases replaced with
    | given set parsed => simp [set, parsed, Except.toOption]
    | ignored set unparsed => simp [set, unparsed, Except.toOption]
    | kept unset => simp [unset]
  · rintro rfl
    cases set : environment.find? name with
    | none => exact .kept set
    | some text =>
        simp only [Option.bind_some]
        cases parsed : LogLevel.parse text with
        | ok level => exact .given set parsed
        | error message => exact .ignored set parsed

theorem overridden_iff {base settings : Settings} :
    Overridden environment base settings ↔ settings = base.override environment := by
  constructor
  · rintro ⟨builtinName, scriptNamespace, versionVariable, version, level, maxCallDepth, ansi⟩
    rw [replaced_iff] at builtinName scriptNamespace versionVariable version
    rw [levelReplaced_iff] at level
    obtain ⟨_, _, _, ⟨_, _⟩, ⟨_, _⟩⟩ := settings
    simp only at builtinName scriptNamespace versionVariable version level maxCallDepth ansi
    subst builtinName scriptNamespace versionVariable version level maxCallDepth ansi
    rfl
  · rintro rfl
    constructor
    · exact replaced_iff.mpr rfl
    · exact replaced_iff.mpr rfl
    · exact replaced_iff.mpr rfl
    · exact replaced_iff.mpr rfl
    · exact levelReplaced_iff.mpr rfl
    · rfl
    · rfl

theorem base_named {path : String} (named : environment.find? pathVariable = some path) :
    base files environment = readText files path >>= form path := by
  rw [base, named]
  exact ofFile_eq files path

theorem readText_eq_ok {path text : String} (read : files.readText path = .ok text) :
    readText files path = .ok text := by
  rw [readText, read]

theorem base_eq_ok_iff {settings : Settings} :
    base files environment = .ok settings ↔ Origin files environment settings := by
  constructor
  · intro found
    cases named : environment.find? pathVariable with
    | some path =>
        rw [base_named named] at found
        cases read : files.readText path with
        | error cause => simp [readText, read, bind, Except.bind] at found
        | ok text =>
            rw [readText_eq_ok read] at found
            exact .named named read found
    | none =>
        simp only [base, named] at found
        cases toml : readToml files tomlPath with
        | ok other =>
            rw [toml] at found
            exact .toml named (toml.trans found)
        | error tomlError =>
            cases json : readJson files jsonPath with
            | ok other =>
                rw [toml, json] at found
                exact .json named toml (json.trans found)
            | error jsonError =>
                rw [toml, json] at found
                cases found
                exact .default named toml json
  · intro origin
    cases origin with
    | named named read parsed =>
        rw [base_named named, readText_eq_ok read]
        exact parsed
    | toml unnamed read => simp only [base, unnamed, read]
    | json unnamed noToml read => simp only [base, unnamed, noToml, read]
    | default unnamed noToml noJson => simp only [base, unnamed, noToml, noJson]

theorem fileName?_bare {name : String} (bare : FileTree.IsBareName name) :
    fileName? name = some name := by
  rw [fileName?, bare.splitOn_eq]
  simp [bare.given, bare.notHere, bare.notAbove]

theorem Origin.unique {first second : Settings} (left : Origin files environment first)
    (right : Origin files environment second) : first = second := by
  have same := (base_eq_ok_iff.mpr left).symm.trans (base_eq_ok_iff.mpr right)
  exact Except.ok.inj same

theorem validate_eq_ok_iff {settings other : Settings} :
    settings.validate = .ok other ↔ settings = other ∧ other.problem? = none := by
  rw [validate]
  constructor
  · intro accepted
    split at accepted
    · contradiction
    · rename_i valid
      cases accepted
      exact ⟨rfl, valid⟩
  · rintro ⟨rfl, valid⟩
    rw [valid]

theorem load_of_base_error {error : SettingsError} (failed : base files environment = .error error) :
    load files environment = .error error := by
  rw [load, failed]
  rfl

/-- Settings are loaded exactly if they are valid and the environment makes them of those of one origin.
There is no other origin where the environment names a file, so if that file cannot be used, the loading
fails with the file's own failure. -/
theorem loaded_settings_have_one_origin (files : FileTree) (environment : Environment) :
    (∀ settings, load files environment = .ok settings ↔
      ∃ base, Origin files environment base ∧ Overridden environment base settings ∧
        settings.validate = .ok settings) ∧
      (∀ first second, Origin files environment first → Origin files environment second →
        first = second) ∧
      ∀ path, environment.find? pathVariable = some path →
        (∀ cause, files.readText path = .error cause →
          load files environment = .error (.unreadable cause)) ∧
        ∀ text error, files.readText path = .ok text → form path text = .error error →
          load files environment = .error error := by
  refine ⟨?_, ?_, ?_⟩
  · intro settings
    constructor
    · intro loaded
      cases found : base files environment with
      | error error =>
          rw [load_of_base_error found] at loaded
          contradiction
      | ok base =>
          rw [load, found] at loaded
          obtain ⟨same, valid⟩ := validate_eq_ok_iff.mp loaded
          have accepted : settings.validate = .ok settings := validate_eq_ok_iff.mpr ⟨rfl, valid⟩
          exact ⟨base, base_eq_ok_iff.mp found, overridden_iff.mpr same.symm, accepted⟩
    · rintro ⟨base, origin, overridden, accepted⟩
      rw [overridden_iff.mp overridden] at accepted ⊢
      rw [load, base_eq_ok_iff.mpr origin]
      exact accepted
  · intro first second left right
    exact left.unique right
  · intro path named
    constructor
    · intro cause unreadable
      apply load_of_base_error
      rw [base_named named, readText, unreadable]
      rfl
    · intro text error read unparsed
      apply load_of_base_error
      rw [base_named named, readText_eq_ok read]
      exact unparsed

def namedSettings : FileTree :=
  let own := FileTree.bare.put ["work", "own.json"] (.file "[\"js\", \"sh\", \"V\"]".toUTF8)
  own.put ["work", tomlPath] (.file (TomlForm.write {}).toUTF8)

def naming (path : String) : Environment :=
  Table.ofList [(pathVariable, path), ("SHELL_BRIDGE_NAMESPACE", "bash"),
    ("SHELL_BRIDGE_LOG_LEVEL", "loud")]

theorem ownJson_bare : FileTree.IsBareName "own.json" := by
  decide

theorem read_namedSettings :
    namedSettings.readText "own.json" = .ok "[\"js\", \"sh\", \"V\"]" := by
  apply FileTree.readText_of_read
  rw [FileTree.read_bare _ ownJson_bare]
  rfl

theorem extension_ownJson : extension? "own.json" = some "json" := by
  rw [extension?, fileName?_bare ownJson_bare]
  decide

theorem origin_namedSettings :
    Origin namedSettings (naming "own.json")
      { builtinName := "js", scriptNamespace := "sh", versionVariable := "V" } := by
  refine .named (by decide) read_namedSettings ?_
  rw [form, if_pos extension_ownJson]
  decide +kernel

theorem loaded_settings_have_one_origin_named :
    load namedSettings (naming "own.json") =
        .ok { builtinName := "js", scriptNamespace := "bash", versionVariable := "V" } ∧
      load namedSettings (naming "other.toml") = .error (.unreadable .notFound) := by
  constructor
  · have loaded := (loaded_settings_have_one_origin namedSettings (naming "own.json")).1
    refine (loaded _).mpr ⟨_, origin_namedSettings, ?_, by decide⟩
    rw [overridden_iff]
    decide +kernel
  · have failed := (loaded_settings_have_one_origin namedSettings (naming "other.toml")).2.2
    refine (failed "other.toml" (by decide)).1 .notFound ?_
    have bare : FileTree.IsBareName "other.toml" := by decide
    have absent : namedSettings.read "other.toml" = .error .notFound := by
      rw [FileTree.read_bare _ bare]
      rfl
    rw [FileTree.readText, absent]
    rfl

end Settings

end ScriptedShell
