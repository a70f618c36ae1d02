import ScriptedShell.Proofs.SettingsReload

/-!
The settings files that are looked for. A file that is there but cannot be used counts for as much as one
that is not there.
-/

namespace ScriptedShell

namespace FileTree

variable (tree : FileTree) {name other : String}

def without (tree : FileTree) (target : List String) : FileTree :=
  { tree with nodes := tree.nodes.filter fun entry => entry.1 ≠ target }

theorem node?_without_self {target : List String} (below : target ≠ []) :
    (tree.without target).node? target = none := by
  rw [node?, if_neg below, List.lookup_eq_none_iff]
  intro entry member
  simp only [without, List.mem_filter, decide_eq_true_eq] at member
  simpa using member.2.symm

theorem node?_without_other {target path : List String} (different : path ≠ target) :
    (tree.without target).node? path = tree.node? path := by
  rw [node?, node?, without, lookup_filter_ne different]

theorem read_without_self (bare : IsBareName name) :
    ∃ error, (tree.without (tree.here name)).read name = .error error := by
  have gone : (tree.without (tree.here name)).node? (tree.here name) = none :=
    node?_without_self tree (by simp [here])
  have read := read_bare (tree.without (tree.here name)) bare
  rw [show (tree.without (tree.here name)).here name = tree.here name from rfl, gone] at read
  rw [read]
  unfold readNode
  split <;> exact ⟨_, rfl⟩

theorem read_without_other (bare : IsBareName name) (different : name ≠ other) :
    (tree.without (tree.here other)).read name = tree.read name := by
  have elsewhere : tree.here name ≠ tree.here other := by simpa [here] using different
  have kept := node?_without_other tree elsewhere
  have directory := node?_without_other tree (tree.here_ne_workingDirectory other)
  rw [read_bare _ bare, read_bare _ bare, ← kept, ← directory]
  rfl

end FileTree

namespace Settings

open FileTree (IsBareName)

theorem tomlPath_bare : IsBareName tomlPath := by
  decide

theorem jsonPath_bare : IsBareName jsonPath := by
  decide

/-- A way to get settings from a file that is looked for in the working directory. -/
structure Source where
  path : String
  form : String → Except SettingsError Settings
  bare : IsBareName path

namespace Source

variable (source : Source) (files : FileTree)

def read : Except SettingsError Settings :=
  readText files source.path >>= source.form

theorem read_absent : ∃ error, source.read (files.without (files.here source.path)) = .error error := by
  obtain ⟨cause, gone⟩ := FileTree.read_without_self files source.bare
  have unreadable : readText (files.without (files.here source.path)) source.path =
      .error (.unreadable cause) := by
    simp only [readText, FileTree.readText, gone, bind, Except.bind]
  exact ⟨.unreadable cause, by rw [read, unreadable]; rfl⟩

theorem read_other {path : String} (different : source.path ≠ path) :
    source.read (files.without (files.here path)) = source.read files := by
  simp only [read, readText, FileTree.readText,
    FileTree.read_without_other files source.bare different]

end Source

def tomlSource : Source :=
  ⟨tomlPath, TomlForm.read, tomlPath_bare⟩

def jsonSource : Source :=
  ⟨jsonPath, JsonForm.read, jsonPath_bare⟩

def searched : List Source :=
  [tomlSource, jsonSource]

variable {files : FileTree} {environment : Environment}

def found? (files : FileTree) : Option Settings :=
  (searched.filterMap fun source => (source.read files).toOption).head?

theorem base_unnamed (unnamed : environment.find? pathVariable = none) :
    base files environment = .ok ((found? files).getD {}) := by
  have tomlRead : readToml files tomlPath = tomlSource.read files := rfl
  have jsonRead : readJson files jsonPath = jsonSource.read files := rfl
  rw [base, unnamed]
  dsimp only
  rw [tomlRead, jsonRead]
  cases toml : tomlSource.read files with
  | ok settings => simp [found?, searched, toml, Except.toOption]
  | error error =>
      cases json : jsonSource.read files <;> simp [found?, searched, toml, json, Except.toOption]

theorem load_unnamed (unnamed : environment.find? pathVariable = none) :
    load files environment = (((found? files).getD {}).override environment).validate := by
  rw [load, base_unnamed unnamed]
  rfl

theorem eq_of_path_eq {first second : Source} (firstMember : first ∈ searched)
    (secondMember : second ∈ searched) (same : first.path = second.path) : first = second := by
  have differ : tomlPath ≠ jsonPath := by decide
  simp only [searched, List.mem_cons, List.not_mem_nil, or_false] at firstMember secondMember
  rcases firstMember with rfl | rfl <;> rcases secondMember with rfl | rfl
  · rfl
  · exact absurd same differ
  · exact absurd same differ.symm
  · rfl

theorem found?_without {source : Source} (member : source ∈ searched) {error : SettingsError}
    (broken : source.read files = .error error) :
    found? (files.without (files.here source.path)) = found? files := by
  refine congrArg List.head? (List.filterMap_congr fun other otherMember => ?_)
  by_cases same : other.path = source.path
  · obtain rfl := eq_of_path_eq otherMember member same
    obtain ⟨absence, gone⟩ := other.read_absent files
    rw [gone, broken]
    rfl
  · rw [other.read_other files same]

theorem validate_error {settings : Settings} {error : SettingsError}
    (refused : settings.validate = .error error) : ∃ problem, error = .invalid problem := by
  rw [validate] at refused
  split at refused
  · rename_i problem _
    cases refused
    exact ⟨problem, rfl⟩
  · contradiction

/-- Without a named file the settings are those of the first file looked for that gives any. What keeps a
file from giving any is never told: it may as well not be there. -/
theorem broken_files_passed_over (files : FileTree) (environment : Environment)
    (unnamed : environment.find? pathVariable = none) :
    load files environment = (((found? files).getD {}).override environment).validate ∧
      (∀ error, load files environment = .error error → ∃ problem, error = .invalid problem) ∧
      ∀ source ∈ searched, ∀ error, source.read files = .error error →
        load (files.without (files.here source.path)) environment = load files environment := by
  refine ⟨load_unnamed unnamed, ?_, ?_⟩
  · intro error failed
    rw [load_unnamed unnamed] at failed
    exact validate_error failed
  · intro source member error broken
    rw [load_unnamed unnamed, load_unnamed unnamed, found?_without member broken]

def brokenSettings : FileTree :=
  FileTree.bare.put ["work", tomlPath] (.file "bad".toUTF8)

theorem read_brokenSettings : brokenSettings.read tomlPath = .ok "bad".toUTF8 := by
  rw [FileTree.read_bare _ tomlPath_bare]
  rfl

theorem readToml_brokenSettings : readToml brokenSettings tomlPath = .error .malformed := by
  have text : readText brokenSettings tomlPath = .ok "bad" := by
    rw [readText, FileTree.readText_of_read read_brokenSettings]
  simp only [readToml, text, bind, Except.bind]
  decide +kernel

theorem broken_files_passed_over_brokenSettings :
    tomlSource.read brokenSettings = .error .malformed ∧
      load (brokenSettings.without ["work", tomlPath]) {} = load brokenSettings {} :=
  ⟨readToml_brokenSettings,
    (broken_files_passed_over brokenSettings {} rfl).2.2 tomlSource (.head _) _
      readToml_brokenSettings⟩

theorem broken_file_unreported :
    brokenSettings.read tomlPath = .ok "bad".toUTF8 ∧
      readToml brokenSettings tomlPath = .error .malformed ∧ load brokenSettings {} = .ok {} := by
  refine ⟨read_brokenSettings, readToml_brokenSettings, ?_⟩
  have noOther : brokenSettings.read jsonPath = .error .notFound := by
    rw [FileTree.read_bare _ jsonPath_bare]
    rfl
  have noToml : tomlSource.read brokenSettings = .error .malformed := readToml_brokenSettings
  have noJson : jsonSource.read brokenSettings = .error (.unreadable .notFound) := by
    simp only [Source.read, jsonSource, readText, FileTree.readText, noOther, bind, Except.bind]
  have none : found? brokenSettings = none := by
    simp [found?, searched, noToml, noJson, Except.toOption]
  rw [load_unnamed rfl, none]
  decide +kernel

end Settings

end ScriptedShell
