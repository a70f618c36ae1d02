import ScriptedShell.Proofs.Protection
import ScriptedShell.Script.Standard

/-!
What an assignment stores. Its value is expanded whatever its quotes are, so a text between single quotes
is stored as it is only where no dollar in it begins a reference.
-/

namespace ScriptedShell

theorem splitAtFirst_append {mark : Char} {before : List Char} (after : List Char)
    (absent : mark ∉ before) :
    splitAtFirst mark (before ++ mark :: after) = some (before, after) := by
  induction before with
  | nil => simp [splitAtFirst]
  | cons first rest ih =>
      simp only [List.mem_cons, not_or] at absent
      simp [splitAtFirst, Ne.symm absent.1, ih absent.2]

namespace Quoting

def assignment (name value : String) : String :=
  name ++ "=" ++ single value

theorem assignment?_guarded {name : String} (identifier : isIdentifier name = true)
    (value : String) : (guarded (name ++ "=" ++ value)).assignment? = some (name, value) := by
  have spelled : (name ++ "=" ++ value).toList = name.toList ++ '=' :: value.toList := by simp
  have split : splitAtFirst '=' (name ++ "=" ++ value).toList =
      some (name.toList, value.toList) := by
    rw [spelled]
    exact splitAtFirst_append value.toList (notMem_of_isIdentifier identifier '=' (by decide))
  have form : isAssignmentText (name ++ "=" ++ value) = true := by
    rw [isAssignmentText, split]
    exact identifier
  have parts : splitAtEquals (name ++ "=" ++ value) = some (name, value) := by
    rw [splitAtEquals, split]
    simp
  rw [Word.assignment?, guarded, form, if_pos rfl, parts]

end Quoting

theorem lexLine_assignment {name : String} (identifier : isIdentifier name = true)
    (value : String) :
    lexLine (Quoting.assignment name value) = .ok [Quoting.guarded (name ++ "=" ++ value)] := by
  have parts := isNamePart_of_isIdentifier identifier
  have noDollar := notMem_of_isIdentifier identifier '$' (by decide)
  have bare : ∀ character ∈ (name ++ "=").toList, Lexer.isBare character = true := by
    intro character member
    rw [String.toList_append, List.mem_append] at member
    rcases member with part | mark
    · exact Lexer.isBare_of_isNamePart (parts character part)
    · rw [List.mem_singleton.mp mark]
      decide
  have start : ∃ first ∈ (name ++ "=").toList.head?, first ≠ '#' := by
    obtain ⟨first, head, noComment⟩ := start_of_isIdentifier identifier
    refine ⟨first, ?_, noComment⟩
    rw [String.toList_append]
    exact List.mem_head?_append_of_mem_head? head
  have word : (value.toList.foldl Lexer.Draft.addDead
      ((name ++ "=").toList.foldl Lexer.Draft.addLive {}).quote).word =
        Quoting.guarded (name ++ "=" ++ value) := by
    rw [Lexer.Draft.foldl_addLive, Lexer.Draft.foldl_addDead]
    simp [Lexer.Draft.word, Lexer.Draft.flags, Lexer.Draft.quote, Quoting.guarded, noDollar]
  rw [lexLine, Quoting.assignment, String.toList_append, Lexer.scan_append,
    Lexer.scan_bare_between [] bare start, Lexer.scan_single_inside, ← word]
  rfl

def Session.assigned (session : Session) (name value : String) : Session :=
  { session with shell := (session.shell.assign name value).finish .success }

theorem Session.executeCommand_assignment [Script.Language] {session : Session} {shape : RecordShape}
    {word : Word} {name value : String} (shaped : session.shell.shape = some shape)
    (assignment : word.assignment? = some (name, value)) :
    executeCommand (.ofWords shape [word]) session =
      (.success, session.assigned name (session.shell.expandText value)) := by
  obtain ⟨nested, same⟩ := executeCommand_eq_runWords shaped [word]
  have ran := Execution.runWords_eq_assignAll nested 0 (Shell.assignments?_singleton assignment) session
  rw [same, Run.bind_of_eq session ran]
  rfl

/-- An assignment stores the expansion of its value, although a protected word would stay as it is
among the arguments of a command. What is written between single quotes is stored as it is if no dollar
in it begins a reference. -/
theorem assignment_stores_expansion [Script.Language] {session : Session} {shape : RecordShape}
    (shaped : session.shell.shape = some shape) :
    (∀ (word : Word) (name value : String), word.assignment? = some (name, value) →
      Session.executeCommand (.ofWords shape [word]) session =
          (.success, session.assigned name (session.shell.expandText value)) ∧
        (word.flags.noExpand = true → session.shell.expandWord word = [word.text])) ∧
    ∀ name value : String, isIdentifier name = true →
      let ended := Session.runLine (Quoting.assignment name value) session
      ended.1 = .success ∧
        ended.2.shell.bindings.value? name = some (session.shell.expandText value) ∧
        (Template.isLiteral value = true → ended.2.shell.bindings.value? name = some value) := by
  refine ⟨?_, ?_⟩
  · intro word name value assignment
    refine ⟨Session.executeCommand_assignment shaped assignment, ?_⟩
    intro protection
    simp [Shell.expandWord, protection]
  · intro name value identifier ended
    have assignment := Quoting.assignment?_guarded identifier value
    have upright := Session.isInversion_guarded (name ++ "=" ++ value)
    have same : ended = (.success, session.assigned name (session.shell.expandText value)) := by
      rw [← Session.executeCommand_assignment shaped assignment]
      exact Session.runLine_eq_executeCommand (lexLine_assignment identifier value) upright shaped
    have stored : ended.2.shell.bindings.value? name = some (session.shell.expandText value) := by
      rw [same]
      exact (session.shell.bindings.value?_assign name _ name).trans (if_pos rfl)
    refine ⟨congrArg Prod.fst same, stored, ?_⟩
    intro literal
    rw [stored, Shell.expandText, Template.fill_eq_self literal]

theorem assignment_stores_expansion_mixed :
    let ended := Session.runLine "C='it'\\''s 5$'" recording
    ended.1 = .success ∧ ended.2.shell.bindings.value? "C" = some "it's 5$" ∧
      Session.executeCommand (.ofWords .version3 [Quoting.guarded "C=$A"]) recording =
        (.success, recording.assigned "C" (recording.shell.expandText "$A")) ∧
      recording.shell.expandWord (Quoting.guarded "C=$A") = ["C=$A"] := by
  have shaped : recording.shell.shape = some .version3 := rfl
  have stores := assignment_stores_expansion shaped
  have written := stores.2 "C" "it's 5$" (by decide)
  have protection := stores.1 (Quoting.guarded "C=$A") "C" "$A" rfl
  exact ⟨written.1, written.2.2 (by decide), protection.1, protection.2 rfl⟩

theorem quoted_assignment_expanded :
    let ended := Session.runLine (Quoting.assignment "C" "$A") recording
    ended.1 = .success ∧ ended.2.shell.bindings.value? "C" = some "x" ∧
      ended.2.shell.bindings.value? "C" ≠ some "$A" ∧
      (Quoting.guarded "C=$A").flags.noExpand = true ∧
      recording.shell.expandWord (Quoting.guarded "C=$A") = ["C=$A"] := by
  decide

end ScriptedShell
