import ScriptedShell.Proofs.Timeline
import ScriptedShell.Script.Standard

/-!
The text that a variable carries for child programs. It is a copy of the name and the value, and each
operation that changes one of them, or whether the variable is exported, brings it up to date.
-/

namespace ScriptedShell

/-- A variable bears the name that it is kept under, and its text for child programs is that name with
its value. There is none without a value, and none unless the variable is exported. -/
structure Variable.Matches (name : String) (entry : Variable) : Prop where
  named : entry.name = name
  exportText : entry.exportText =
    if entry.exported then entry.value.map fun value => name ++ "=" ++ value else none

def Variables.Matching (bindings : Variables) : Prop :=
  ∀ (name : String) (entry : Variable), bindings.find? name = some entry → entry.Matches name

namespace Variable.Matches

variable {name : String} {entry : Variable}

theorem declared (name : String) : Variable.Matches name { name } :=
  ⟨rfl, rfl⟩

theorem assign (isMatch : entry.Matches name) (value : String) :
    (entry.assign value).Matches name where
  named := isMatch.named
  exportText := by
    have text := isMatch.exportText
    cases exported : entry.exported with
    | true => simp [Variable.assign, exported, isMatch.named]
    | false =>
        rw [exported] at text
        simpa [Variable.assign, exported] using text

theorem markExported (isMatch : entry.Matches name) : entry.markExported.Matches name where
  named := isMatch.named
  exportText := by simp [Variable.markExported, isMatch.named]

end Variable.Matches

namespace Variables.Matching

variable {bindings : Variables}

theorem empty : Variables.Matching ∅ :=
  fun name entry found => by
    rw [Table.find?_empty] at found
    contradiction

theorem insert (matching : bindings.Matching) {name : String} {entry : Variable}
    (isMatch : entry.Matches name) : Variables.Matching (Table.insert bindings name entry) := by
  intro other kept found
  rw [Table.find?_insert] at found
  by_cases same : other = name
  · subst same
    rw [if_pos rfl] at found
    cases found
    exact isMatch
  · rw [if_neg same] at found
    exact matching other kept found

theorem apply (matching : bindings.Matching) (update : Update) :
    (update.apply bindings).Matching := by
  cases update with
  | assign name value =>
      refine matching.insert (Variable.Matches.assign ?_ value)
      cases found : bindings.find? name with
      | none => exact .declared name
      | some entry => exact matching name entry found
  | declare name =>
      rw [Update.apply, Variables.declare]
      cases bindings.find? name with
      | none => exact matching.insert (.declared name)
      | some entry => exact matching
  | markExported name =>
      rw [Update.apply, Variables.markExported]
      cases found : bindings.find? name with
      | none => exact matching
      | some entry => exact matching.insert (matching name entry found).markExported

theorem update (matching : bindings.Matching) (updates : List Update) :
    (bindings.update updates).Matching := by
  induction updates generalizing bindings with
  | nil => exact matching
  | cons first rest ih => exact ih (matching.apply first)

end Variables.Matching

open Machine

theorem Moment.Occurs.matching [Script.Language] {settings : HostSettings} {files : FileTree}
    {updates : List Update} {moment : Moment} (occurs : Occurs settings files updates moment) :
    moment.session.shell.bindings.Matching := by
  rw [occurs.bindings]
  exact Variables.Matching.empty.update _

/-- The texts for child programs are right in a new shell, each way to change the variables keeps them
right, and so they are at every moment of every session. -/
theorem export_texts_match [Script.Language] :
    (∀ settings : HostSettings, (Shell.new settings).bindings.Matching) ∧
      (∀ (bindings : Variables) (update : Update), bindings.Matching →
        (update.apply bindings).Matching) ∧
      (∀ (shell : Shell) (environment : List (String × String)), shell.bindings.Matching →
        (CommandLine.importEnvironment shell environment).bindings.Matching) ∧
      (∀ (shell : Shell) (assignments : List (String × String)), shell.bindings.Matching →
        (shell.assignAll assignments).bindings.Matching) ∧
      (∀ (limits : Session.Limits) (config next : Config), config.Balanced limits →
        step config = some next → config.session.shell.bindings.Matching →
        next.session.shell.bindings.Matching) ∧
      (∀ session : Session, session.Reachable → session.shell.bindings.Matching) ∧
      ∀ (settings : HostSettings) (files : FileTree) (updates : List Update) (moment : Moment),
        Moment.Occurs settings files updates moment →
        moment.session.shell.bindings.Matching := by
  refine ⟨?new, ?apply, ?environment, ?assignments, ?step, ?reached, ?moment⟩
  case new =>
    intro settings
    exact Variables.Matching.empty.apply (.assign Shell.versionVariable settings.version)
  case apply =>
    intro bindings update matching
    exact matching.apply update
  case environment =>
    intro shell environment matching
    rw [CommandLine.importEnvironment_eq]
    exact matching.update _
  case assignments =>
    intro shell assignments matching
    rw [shell.bindings_assignAll]
    exact matching.update _
  case step =>
    intro limits config next balanced stepped matching
    rw [(effect_step balanced stepped).bindings]
    exact matching.update _
  case reached =>
    intro session reached
    obtain ⟨settings, files, updates, occurs⟩ := reached.occurs
    exact occurs.matching
  case moment =>
    intro settings files updates moment occurs
    exact occurs.matching

theorem export_texts_match_late_value :
    let changed := (Change.markExported "A").apply ((Change.declare "A").apply (Session.new {} .bare))
    let ended := Waiting.nobody.await (Operation.line "A=1").run changed
    (∃ updates, Moment.Occurs {} .bare updates (.running ended)) ∧
      ended.session.shell.bindings.find? "A" =
        some { name := "A", value := some "1", exported := true, exportText := some "A=1" } ∧
      ended.session.shell.bindings.Matching := by
  intro changed ended
  have resting : changed.Resting := by
    have new := (Session.Reachable.new {} .bare).resting
    exact (new.change (.declare "A")).change (.markExported "A")
  obtain ⟨updates, ran⟩ := Moment.Timeline.of_reaches (reaches_begin (.line "A=1") resting)
  have declared := Moment.Timeline.single (.change (.declare "A") (Session.new {} .bare))
  have exported := declared.tail (.change (.markExported "A") _)
  have occurs := (exported.tail (.begin (.line "A=1") _)).trans ran
  obtain ⟨_, _, _, _, _, _, moments⟩ := export_texts_match
  exact ⟨⟨_, occurs⟩, by decide, moments {} .bare _ _ occurs⟩

end ScriptedShell
