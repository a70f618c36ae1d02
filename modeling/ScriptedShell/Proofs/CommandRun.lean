import ScriptedShell.Proofs.Quoting
import ScriptedShell.Session.Operation

/-!
Running the words of a line. What the line's words are decides whether they are assignments or a
command, and the shell as it is at that moment decides what they expand to.
-/

namespace ScriptedShell

theorem isDigit_of_isNameStart {character : Char} (start : isNameStart character = true) :
    character.isDigit = false := by
  have range := toNat_of_isNameStart start
  rw [Bool.eq_false_iff]
  intro digit
  have low := toNat_of_isDigit digit
  omega

namespace Variables

theorem value?_assign (bindings : Variables) (name value other : String) :
    (bindings.assign name value).value? other =
      if other = name then some value else bindings.value? other := by
  rw [value?, assign, Table.find?_insert]
  split
  · rfl
  · rfl

end Variables

namespace Shell

theorem parameter_of_isIdentifier (shell : Shell) {name : String}
    (identifier : isIdentifier name = true) :
    shell.parameter name = (shell.bindings.value? name).getD "" := by
  have different (other : String) (special : isIdentifier other = false) : name ≠ other := by
    rintro rfl
    rw [identifier] at special
    contradiction
  have notDigits : name.toList.all Char.isDigit = false := by
    unfold isIdentifier at identifier
    cases characters : name.toList with
    | nil =>
        rw [characters] at identifier
        contradiction
    | cons first rest =>
        rw [characters] at identifier
        simp only [isIdentifierChars, Bool.and_eq_true] at identifier
        rw [List.all_cons, isDigit_of_isNameStart identifier.1, Bool.false_and]
  simp [parameter, notDigits, different "?" (by decide), different "#" (by decide),
    different "@" (by decide), different "*" (by decide), different "0" (by decide)]

theorem assignments?_singleton {word : Word} {name value : String}
    (assigned : word.assignment? = some (name, value)) :
    assignments? [word] = some [(name, value)] := by
  simp [assignments?, assigned]

theorem assignments?_eq_none {words : List Word} {word : Word} (member : word ∈ words)
    (command : word.assignment? = none) : assignments? words = none := by
  have stopped : words.mapM Word.assignment? = none := by
    induction words with
    | nil => contradiction
    | cons first rest ih =>
        rw [List.mapM_cons]
        rcases List.mem_cons.mp member with rfl | later
        · rw [command]
          rfl
        · rw [ih later]
          cases first.assignment? with
          | none => rfl
          | some assignment => rfl
  rw [assignments?, stopped]
  split
  · rfl
  · rfl

end Shell

namespace Execution

variable {words : List Word}

theorem refusal?_eq_none {shell : Shell} {command : Command}
    (shaped : shell.shape = some command.shape) (direct : command.redirections = []) :
    refusal? shell command = none := by
  simp [refusal?, shaped, direct]

theorem refusal?_ofWords {shell : Shell} {shape : RecordShape} (shaped : shell.shape = some shape)
    (words : List Word) : refusal? shell (.ofWords shape words) = none :=
  refusal?_eq_none (by rw [shaped, Command.shape_ofWords]) (Command.redirections_ofWords shape words)

theorem runWords_eq_runFields [Script.Language] (nested : Nested) (line : Int32)
    (command : Shell.assignments? words = none) (session : Session) :
    runWords nested line words session =
      runFields nested line (session.shell.expandWords words) session := by
  rw [runWords, command]
  rfl

theorem runWords_eq_assignAll [Script.Language] (nested : Nested) (line : Int32)
    {assignments : List (String × String)}
    (assigned : Shell.assignments? words = some assignments) (session : Session) :
    runWords nested line words session =
      (.success, { session with shell := session.shell.assignAll assignments }) := by
  rw [runWords, assigned]
  rfl

end Execution

theorem execute_eq_runWords [Script.Language] {session : Session} {shape : RecordShape}
    (shaped : session.shell.shape = some shape) (words : List Word) (bound : Nat) :
    execute (bound + 1) (.ofWords shape words) session =
      (Execution.runWords (execute bound) 0 words >>= Execution.finishCommand false) session := by
  rw [execute, Execution.executeWith, Run.get_bind, Execution.refusal?_ofWords shaped]
  simp only [Command.line_ofWords, Command.words_ofWords, Command.inverted_ofWords]

namespace Session

theorem executeCommand_eq_execute [Script.Language] (session : Session) (command : Command) :
    ∃ bound, session.shell.settings.maxCallDepth.toNat ≤ bound ∧
      executeCommand command session = execute (bound + 1) command session := by
  let bound := session.shell.settings.maxCallDepth.toNat + session.bridges.length
  have enough : session.nestingBound = bound + 1 := by
    simp only [nestingBound, bound]
    omega
  refine ⟨bound, Nat.le_add_right _ _, ?_⟩
  rw [executeCommand, nested, Run.get_bind, enough]

theorem executeCommand_eq_runWords [Script.Language] {session : Session} {shape : RecordShape}
    (shaped : session.shell.shape = some shape) (words : List Word) :
    ∃ nested : Nested, executeCommand (.ofWords shape words) session =
      (Execution.runWords nested 0 words >>= Execution.finishCommand false) session := by
  obtain ⟨bound, _, same⟩ := session.executeCommand_eq_execute (.ofWords shape words)
  exact ⟨execute bound, same.trans (execute_eq_runWords shaped words bound)⟩

theorem isInversion_plain {name : String} (identifier : isIdentifier name = true) :
    isInversion (Quoting.plain name) = false := by
  have different : name ≠ "!" := by
    rintro rfl
    contradiction
  simp [isInversion, Quoting.plain, different]

theorem isInversion_guarded (text : String) : isInversion (Quoting.guarded text) = false := by
  simp [isInversion, Quoting.guarded]

theorem readLine_eq_command {line : String} {first : Word} {rest : List Word} {shape : RecordShape}
    {shell : Shell} (lexed : lexLine line = .ok (first :: rest))
    (upright : isInversion first = false) (shaped : shell.shape = some shape) (number : Int32) :
    readLine shell number line =
      .command ((Command.ofWords shape (first :: rest)).atLine number) := by
  simp [readLine, lexed, splitInversion, upright, Command.make, shaped]

theorem runLine_eq_executeCommand [Script.Language] {line : String} {first : Word} {rest : List Word}
    {shape : RecordShape} {session : Session} (lexed : lexLine line = .ok (first :: rest))
    (upright : isInversion first = false) (shaped : session.shell.shape = some shape) :
    runLine line session = executeCommand (.ofWords shape (first :: rest)) session := by
  rw [runLine, runNumbered, Run.get_bind, readLine_eq_command lexed upright shaped,
    Command.ofWords_atLine_zero]

theorem runLine_eq_runWords [Script.Language] {line : String} {first : Word} {rest : List Word}
    {shape : RecordShape} {session : Session} (lexed : lexLine line = .ok (first :: rest))
    (upright : isInversion first = false) (shaped : session.shell.shape = some shape) :
    runLine line session =
      (Execution.runWords (execute (session.nestingBound - 1)) 0 (first :: rest) >>=
        Execution.finishCommand false) session := by
  have bounded : session.nestingBound = session.nestingBound - 1 + 1 := by
    simp only [nestingBound]
    omega
  rw [runLine_eq_executeCommand lexed upright shaped, executeCommand, nested, Run.get_bind, bounded,
    execute_eq_runWords shaped]
  rfl

end Session

end ScriptedShell
