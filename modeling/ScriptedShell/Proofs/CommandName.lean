import ScriptedShell.Proofs.Passage
import ScriptedShell.Proofs.Registration
import ScriptedShell.Script.Standard

/-!
The names that settings may give to a bridge's command. A line that begins with one of them reaches the
bridge, but for two kinds of names that the settings do not refuse: a line takes a name that begins with
the mark of a comment for a comment, and the name `!` for an inversion.
-/

namespace ScriptedShell

open Quoting

theorem isPlainText_of_isShellName {name : String} (shellName : isShellName name = true)
    (noComment : name.toList.head? ≠ some '#') : isPlainText name = true := by
  simp only [isShellName, Bool.and_eq_true, Bool.not_eq_true', List.any_eq_false, Bool.or_eq_true,
    not_or] at shellName
  obtain ⟨given, unmarked⟩ := shellName
  have bare : ∀ character ∈ name.toList, Lexer.isBare character = true := by
    intro character member
    obtain ⟨visible, noMark⟩ := unmarked character member
    have different (mark : Char) (special : shellMarks.contains mark = true) : character ≠ mark := by
      rintro rfl
      exact noMark special
    have visible : isBlank character = false := by simpa using visible
    exact Lexer.isBare_iff.mpr ⟨visible, different '\'' (by decide), different '"' (by decide),
      different '\\' (by decide)⟩
  simp only [isPlainText, given, Bool.not_false, Bool.true_and, Bool.and_eq_true, List.all_eq_true,
    bne_iff_ne]
  exact ⟨bare, noComment⟩

def commandLine (name : String) (texts : List String) : String :=
  name ++ " " ++ " ".intercalate (texts.map single)

theorem space_intercalate_single (first : String) (rest : List String) :
    " " ++ " ".intercalate ((first :: rest).map single) = Quoting.arguments (first :: rest) := by
  induction rest generalizing first with
  | nil => simp [Quoting.arguments]
  | cons next rest ih =>
      have joined : " ".intercalate ((first :: next :: rest).map single) =
          single first ++ " " ++ " ".intercalate ((next :: rest).map single) :=
        String.intercalate_cons_cons
      rw [Quoting.arguments, ← ih next, joined]
      simp only [String.append_assoc]

theorem Lexer.scan_texts {state : State} {words : List Word} (holds : Holds state words)
    (texts : List String) :
    Holds (scan state (" " ++ " ".intercalate (texts.map single)).toList)
      (words ++ texts.map guarded) := by
  cases texts with
  | nil =>
      have spaced : scan state (" " ++ " ".intercalate ([].map single)).toList = step state ' ' := rfl
      rw [spaced, holds.space, List.map_nil, List.append_nil]
      exact .between words
  | cons first rest =>
      rw [space_intercalate_single]
      exact scan_arguments holds (first :: rest)

theorem lexLine_commandLine {name : String} (shellName : isShellName name = true)
    (noComment : name.toList.head? ≠ some '#') (texts : List String) :
    lexLine (commandLine name texts) = .ok (plain name :: texts.map guarded) := by
  have plainName := isPlainText_of_isShellName shellName noComment
  have read := Lexer.holds_render (lexed_of_isPlainText plainName) []
  rw [render_of_isPlainText plainName, Word.ofText_of_isShellName shellName] at read
  rw [lexLine, commandLine, String.append_assoc, String.toList_append, Lexer.scan_append]
  exact (Lexer.scan_texts read texts).finish

theorem isBlankLine_commandLine {name : String} (comment : name.toList.head? = some '#')
    (texts : List String) : isBlankLine (commandLine name texts) = true := by
  obtain ⟨rest, characters⟩ := List.head?_eq_some_iff.mp comment
  have visible : isBlank '#' = false := by decide
  simp [isBlankLine, commandLine, characters, visible]

theorem Bridge.runWords_execute [Script.Language] {session : Session} {bound : Nat}
    (room : session.room < bound + 1) (index : Nat) (words : List Word) :
    runWords (execute bound) index words session = Session.runBridgeWords index words session := by
  have bounded := Machine.reaches_bridge (execute_keeps bound) (Machine.simulates_execute bound) index
    words .nobody room
  have free := Machine.reaches_bridge Session.nested_keeps (Machine.simulates_nested bound) index words
    .nobody room
  exact bounded.runs_eq free

namespace Session

variable {session : Session} {index : Nat} {shape : RecordShape} {name : String}

theorem runLine_command [Script.Language] (shellName : isShellName name = true)
    (shaped : session.shell.shape = some shape)
    (bound : session.shell.extensions.find? name = some (.bridge index))
    (unshadowed : session.shell.functions.find? name = none)
    (noComment : name.toList.head? ≠ some '#') (upright : name ≠ "!") (texts : List String) :
    runLine (commandLine name texts) session =
      (runBridgeWords index (texts.map Word.literal) >>= Execution.finish) session := by
  let words := plain name :: texts.map guarded
  have lexed : lexLine (commandLine name texts) = .ok words :=
    lexLine_commandLine shellName noComment texts
  have begins : isInversion (plain name) = false := by
    simp [isInversion, plain, upright]
  have command : Shell.assignments? words = none :=
    Shell.assignments?_eq_none List.mem_cons_self rfl
  have expanded : session.shell.expandWords words = name :: texts := by
    rw [Shell.expandWords_plain, Shell.expandWords_guarded]
  have room : session.room < session.nestingBound - 1 + 1 := by
    have bounded := session.room_lt_nestingBound
    omega
  have ran : Execution.runWords (execute (session.nestingBound - 1)) 0 words session =
      runBridgeWords index (texts.map Word.literal) session := by
    rw [Execution.runWords_eq_runFields _ 0 command, expanded,
      Execution.runFields_bridge unshadowed bound]
    exact Bridge.runWords_execute room index _
  rw [runLine_eq_runWords lexed begins shaped]
  exact congrArg (fun ended : Status × Session => Execution.finish ended.1 ended.2) ran

theorem runLine_inverting [Script.Language] (shaped : session.shell.shape = some shape)
    (texts : List String) :
    runLine (commandLine "!" texts) session =
      executeCommand ((Command.ofWords shape (texts.map guarded)).invert) session := by
  have shellName : isShellName "!" = true := by decide
  have lexed := lexLine_commandLine shellName (by decide) texts
  have read : readLine session.shell 0 (commandLine "!" texts) =
      .command ((Command.ofWords shape (texts.map guarded)).invert) := by
    have inverts : isInversion (plain "!") = true := by decide
    simp [readLine, lexed, splitInversion, inverts, Command.make, shaped]
  rw [runLine, runNumbered, Run.get_bind, read]

end Session

/-- Behind a name that the settings of a bridge may give to its command, the texts of a line reach the
bridge as they are, each as a word, and the line ends with the bridge's status. The settings also let
through names that no line can begin with: of the mark of a comment nothing is left, and `!` inverts the
command that the texts make. -/
theorem valid_name_invoked [Script.Language] {session : Session} {index : Nat} {shape : RecordShape}
    (valid : (session.bridge index).settings.problem? = none)
    (shaped : session.shell.shape = some shape)
    (bound : session.shell.extensions.find? (session.bridge index).settings.builtinName =
      some (.bridge index))
    (unshadowed : session.shell.functions.find? (session.bridge index).settings.builtinName = none)
    (texts : List String) :
    let name := (session.bridge index).settings.builtinName
    let line := commandLine name texts
    (name.toList.head? ≠ some '#' → name ≠ "!" →
        Session.runLine line session =
          (Session.runBridgeWords index (texts.map Word.literal) >>= Execution.finish) session) ∧
      (name.toList.head? = some '#' →
        Session.runLine line session = (session.shell.lastStatus, session)) ∧
      (name = "!" →
        Session.runLine line session =
          Session.executeCommand ((Command.ofWords shape (texts.map guarded)).invert) session) := by
  intro name line
  have shellName : isShellName name = true := Settings.isShellName_of_valid valid
  refine ⟨?invoked, ?comment, ?inversion⟩
  case invoked =>
    intro noComment upright
    exact Session.runLine_command shellName shaped bound unshadowed noComment upright texts
  case comment =>
    intro comment
    exact Session.runNumbered_blank (isBlankLine_commandLine comment texts) 0 session
  case inversion =>
    intro inversion
    have written : line = commandLine "!" texts := congrArg (commandLine · texts) inversion
    rw [written]
    exact Session.runLine_inverting shaped texts

def answeringTo (name : String) : Session :=
  (Session.new {} .bare).attach { builtinName := name }

theorem valid_name_invoked_marked :
    let session := answeringTo "a!#*"
    let words := [.literal "it's", .literal "#"]
    Session.runLine "a!#* 'it'\\''s' '#'" session =
        (Session.runBridgeWords 0 words >>= Execution.finish) session ∧
      (Session.runLine "a!#* 'it'\\''s' '#'" session).2.events.toList =
        [.diagnostic (bridgeUsage "a!#*" ++ "\n")] := by
  intro session words
  have valid : (session.bridge 0).settings.problem? = none := by decide
  have shaped : session.shell.shape = some .version3 := rfl
  have bound : session.shell.extensions.find? (session.bridge 0).settings.builtinName =
      some (.bridge 0) := by
    decide
  have invoked := (valid_name_invoked valid shaped bound (by decide) ["it's", "#"]).1 (by decide)
    (by decide)
  exact ⟨invoked, by decide +kernel⟩

theorem valid_name_ignored :
    let session := answeringTo "#js"
    (session.bridge 0).settings.validate = .ok (session.bridge 0).settings ∧
      session.shell.shape = some .version3 ∧
      session.shell.extensions.find? "#js" = some (.bridge 0) ∧
      session.shell.functions.find? "#js" = none ∧
      Session.runLine (commandLine "#js" ["help"]) session = (.success, session) ∧
      (Session.runBridgeWords 0 [.literal "help"] session).1 = .failure ∧
      Session.runLine (commandLine "#js" ["help"]) session ≠
        (Session.runBridgeWords 0 [.literal "help"] >>= Execution.finish) session := by
  intro session
  have ignored : Session.runLine (commandLine "#js" ["help"]) session = (.success, session) :=
    Session.runNumbered_blank (isBlankLine_commandLine (by decide) _) 0 session
  have refused : (Session.runBridgeWords 0 [.literal "help"] session).1 = .failure := by decide
  refine ⟨by decide, rfl, by decide, by decide, ignored, refused, ?_⟩
  intro same
  have ended : ((Session.runBridgeWords 0 [.literal "help"] >>= Execution.finish) session).1 =
      .failure :=
    refused
  rw [← same, ignored] at ended
  exact absurd ended (by decide)

end ScriptedShell
