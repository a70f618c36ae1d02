import ScriptedShell.Proofs.Delivery
import ScriptedShell.Proofs.StoredValue
import ScriptedShell.Script.Standard

/-!
Lines of nothing but quoted texts. Quotes keep a text from being a comment or an inversion, but not from
being an assignment: if every text has the form `NAME=value`, the line assigns.
-/

namespace ScriptedShell

theorem eq_of_splitAtFirst {mark : Char} {characters before after : List Char}
    (split : splitAtFirst mark characters = some (before, after)) :
    characters = before ++ mark :: after := by
  induction characters generalizing before with
  | nil => simp [splitAtFirst] at split
  | cons first rest ih =>
      by_cases found : first = mark
      · subst found
        simp only [splitAtFirst, if_true, Option.some.injEq, Prod.mk.injEq] at split
        obtain ⟨rfl, rfl⟩ := split
        rfl
      · simp only [splitAtFirst, found, if_false, Option.map_eq_some_iff] at split
        obtain ⟨⟨left, right⟩, later, same⟩ := split
        obtain ⟨rfl, rfl⟩ := Prod.mk.inj same
        rw [List.cons_append, ← ih later]

namespace Quoting

def assignmentText (assignment : String × String) : String :=
  assignment.1 ++ "=" ++ assignment.2

theorem exists_of_isAssignmentText {text : String} (form : isAssignmentText text = true) :
    ∃ assignment, isIdentifier assignment.1 = true ∧ text = assignmentText assignment := by
  unfold isAssignmentText at form
  split at form
  · rename_i before after split
    refine ⟨(String.ofList before, String.ofList after), ?_, ?_⟩
    · rwa [isIdentifier, String.toList_ofList]
    · rw [← String.toList_inj, eq_of_splitAtFirst split]
      simp [assignmentText]
  · contradiction

theorem exists_assignments {texts : List String}
    (form : ∀ text ∈ texts, isAssignmentText text = true) :
    ∃ assignments : List (String × String), texts = assignments.map assignmentText ∧
      ∀ assignment ∈ assignments, isIdentifier assignment.1 = true := by
  induction texts with
  | nil => exact ⟨[], rfl, nofun⟩
  | cons first rest ih =>
      obtain ⟨now, later⟩ := List.forall_mem_cons.mp form
      obtain ⟨assignment, identifier, spelled⟩ := exists_of_isAssignmentText now
      obtain ⟨assignments, others, identifiers⟩ := ih later
      refine ⟨assignment :: assignments, ?_, ?_⟩
      · rw [List.map_cons, ← spelled, ← others]
      · exact List.forall_mem_cons.mpr ⟨identifier, identifiers⟩

theorem assignments?_guarded {assignments : List (String × String)} (filled : assignments ≠ [])
    (identifiers : ∀ assignment ∈ assignments, isIdentifier assignment.1 = true) :
    Shell.assignments? ((assignments.map assignmentText).map guarded) = some assignments := by
  have all : ((assignments.map assignmentText).map guarded).mapM Word.assignment? =
      some assignments := by
    clear filled
    induction assignments with
    | nil => rfl
    | cons assignment rest ih =>
        obtain ⟨now, later⟩ := List.forall_mem_cons.mp identifiers
        rw [List.map_cons, List.map_cons, List.mapM_cons, assignmentText, assignment?_guarded now,
          ih later]
        rfl
  have words : ((assignments.map assignmentText).map guarded).isEmpty = false := by
    simpa using filled
  rw [Shell.assignments?, all, words]
  rfl

end Quoting

open Quoting

namespace Session

variable [Script.Language]

def runTexts (session : Session) (texts : List String) : Status × Session :=
  (Execution.runFields (execute (session.nestingBound - 1)) 0 texts >>=
    Execution.finishCommand false) session

variable {session : Session} {shape : RecordShape}

theorem runLine_quoted (shaped : session.shell.shape = some shape) (name : String)
    (texts : List String) :
    runLine (single name ++ Quoting.arguments texts) session =
      (Execution.runWords (execute (session.nestingBound - 1)) 0 ((name :: texts).map guarded) >>=
        Execution.finishCommand false) session :=
  runLine_eq_runWords (lexLine_single name texts) (isInversion_guarded name) shaped

theorem runLine_quoted_command (shaped : session.shell.shape = some shape) {name : String}
    {texts : List String} (command : ∃ text ∈ name :: texts, isAssignmentText text = false) :
    runLine (single name ++ Quoting.arguments texts) session = session.runTexts (name :: texts) := by
  have asked : Shell.assignments? ((name :: texts).map guarded) = none := by
    obtain ⟨text, member, other⟩ := command
    refine Shell.assignments?_eq_none (List.mem_map_of_mem member) ?_
    simp [Word.assignment?, guarded, other]
  have ran := Execution.runWords_eq_runFields (execute (session.nestingBound - 1)) 0 asked session
  rw [session.shell.expandWords_guarded] at ran
  rw [runLine_quoted shaped, runTexts]
  exact congrArg (fun ended : Status × Session => (Execution.finishCommand false ended.1) ended.2) ran

theorem runLine_quoted_assignments (shaped : session.shell.shape = some shape) {name : String}
    {texts : List String} {assignments : List (String × String)}
    (spelled : name :: texts = assignments.map assignmentText)
    (identifiers : ∀ assignment ∈ assignments, isIdentifier assignment.1 = true) :
    runLine (single name ++ Quoting.arguments texts) session =
      (.success,
        { session with shell := (session.shell.assignAll assignments).finish .success }) := by
  have filled : assignments ≠ [] := by
    rintro rfl
    contradiction
  have assigned := assignments?_guarded filled identifiers
  rw [← spelled] at assigned
  have ran := Execution.runWords_eq_assignAll (execute (session.nestingBound - 1)) 0 assigned session
  rw [runLine_quoted shaped, Run.bind_of_eq session ran]
  rfl

end Session

/-- A line of texts between single quotes is a command with these texts as its name and arguments, whatever
they are, unless every one of them has the form of an assignment. Then the line assigns, and each value is
expanded first. -/
theorem quoted_texts_run [Script.Language] {session : Session} {shape : RecordShape}
    (shaped : session.shell.shape = some shape) (name : String) (texts : List String) :
    let line := single name ++ Quoting.arguments texts
    ((∃ text ∈ name :: texts, isAssignmentText text = false) →
        Session.runLine line session = session.runTexts (name :: texts)) ∧
      ((∀ text ∈ name :: texts, isAssignmentText text = true) →
        ∃ assignments : List (String × String), name :: texts = assignments.map assignmentText ∧
          (∀ assignment ∈ assignments, isIdentifier assignment.1 = true) ∧
          Session.runLine line session =
            (.success,
              { session with shell := (session.shell.assignAll assignments).finish .success })) := by
  intro line
  constructor
  · intro command
    exact Session.runLine_quoted_command shaped command
  · intro form
    obtain ⟨assignments, spelled, identifiers⟩ := exists_assignments form
    exact ⟨assignments, spelled, identifiers,
      Session.runLine_quoted_assignments shaped spelled identifiers⟩

theorem quoted_texts_run_recorder :
    recording.Records "'rec' '#' '!' 'C=$A'" "rec" .success ["#", "!", "C=$A"] ∧
      ∃ assignments : List (String × String),
        ["C=it's", "D=$C"] = assignments.map assignmentText ∧
        Session.runLine "'C=it'\\''s' 'D=$C'" recording =
          (.success,
            { recording with shell := (recording.shell.assignAll assignments).finish .success }) := by
  have shaped : recording.shell.shape = some .version3 := rfl
  have command : ∃ text ∈ ["rec", "#", "!", "C=$A"], isAssignmentText text = false :=
    ⟨"rec", by decide, by decide⟩
  have ran := (quoted_texts_run shaped "rec" ["#", "!", "C=$A"]).1 command
  obtain ⟨assignments, spelled, _, assigned⟩ :=
    (quoted_texts_run shaped "C=it's" ["D=$C"]).2 (by decide)
  exact ⟨ran, assignments, spelled, assigned⟩

theorem quoted_text_assigned :
    let session := { recording with shell := recording.shell.extend "C=1" (.recorder "C=1" 3) }
    let line := single "C=1" ++ Quoting.arguments []
    Session.runLine line session = (.success, session.assigned "C" "1") ∧
      (session.runTexts ["C=1"]).1 = 3 ∧
      (session.runTexts ["C=1"]).2.shell.bindings.value? "C" = none ∧
      Session.runLine line session ≠ session.runTexts ["C=1"] := by
  intro session line
  have shaped : session.shell.shape = some .version3 := rfl
  have spelled : ["C=1"] = [("C", "1")].map assignmentText := by decide
  have assigned : Session.runLine line session = (.success, session.assigned "C" "1") :=
    Session.runLine_quoted_assignments shaped spelled (by decide)
  have status : (session.runTexts ["C=1"]).1 = 3 := by decide
  refine ⟨assigned, status, by decide, ?_⟩
  intro same
  rw [← same, assigned] at status
  exact absurd status (by decide)

end ScriptedShell
