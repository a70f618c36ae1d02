import ScriptedShell.Proofs.CommandRun
import ScriptedShell.Proofs.LiteralText
import ScriptedShell.Script.Standard

/-!
What quoting protects in a word that is quoted in part. A word is expanded as a whole, so one live dollar
makes every dollar in it live.
-/

namespace ScriptedShell

namespace Quoting

def backslashed (text : String) : String :=
  String.ofList (text.toList.flatMap fun character => ['\\', character])

/-- The ways to write a text so that none of its characters means anything. -/
inductive Protects (text : String) : String → Prop where
  | quotes : Protects text (single text)
  | backslashes : Protects text (backslashed text)

def mixed (quoted : Bool) (text name : String) : Word :=
  ⟨text ++ reference name,
    { hasDollar := true
      quoted
      assignment := isAssignmentText (text ++ reference name) }⟩

theorem toList_reference (name : String) :
    (reference name).toList = '$' :: '{' :: (name.toList ++ ['}']) := by
  simp [reference]

theorem isBare_reference {name : String} (identifier : isIdentifier name = true) :
    ∀ character ∈ (reference name).toList, Lexer.isBare character = true := by
  intro character member
  rw [toList_reference] at member
  simp only [List.mem_cons, List.mem_append, List.not_mem_nil, or_false] at member
  rcases member with rfl | rfl | part | rfl
  · decide
  · decide
  · exact Lexer.isBare_of_isNamePart (isNamePart_of_isIdentifier identifier character part)
  · decide

theorem isEmpty_eq_of_toList {text : String} {characters : List Char}
    (same : text.toList = characters) : text.isEmpty = characters.isEmpty := by
  rw [← same, Bool.eq_iff_iff, String.isEmpty_iff, List.isEmpty_iff, String.toList_eq_nil_iff]

end Quoting

namespace Lexer

open Quoting

variable {words : List Word}

theorem scan_backslash (draft : Draft) (rest : List Char) :
    scan ⟨words, .inside .bare draft⟩ ('\\' :: rest) =
      scan ⟨words, .inside .bare draft.quote⟩ ('\\' :: rest) := by
  have visible : isBlank '\\' = false := by decide
  have same : draft.quote.quote = draft.quote := rfl
  simp [scan_cons, step, stepBare, visible, same]

theorem scan_backslashed (words : List Word) (draft : Draft) (quoted : draft.quoted = true)
    (characters : List Char) :
    scan ⟨words, .inside .bare draft⟩ (characters.flatMap fun character => ['\\', character]) =
      ⟨words, .inside .bare (characters.foldl Draft.addDead draft)⟩ := by
  induction characters generalizing draft with
  | nil => rfl
  | cons first rest ih =>
      have visible : isBlank '\\' = false := by decide
      have same : draft.quote = draft := by
        rw [Draft.quote, ← quoted]
      have one : scan ⟨words, .inside .bare draft⟩ ['\\', first] =
          ⟨words, .inside .bare (draft.addDead first)⟩ := by
        simp [scan, step, stepBare, visible, same]
      rw [List.flatMap_cons, scan_append, one, ih (draft.addDead first) quoted]
      rfl

theorem scan_reference (draft : Draft) {name : String} (identifier : isIdentifier name = true) :
    scan ⟨words, .inside .bare draft⟩ (reference name).toList =
      ⟨words, .inside .bare ((reference name).toList.foldl Draft.addLive draft)⟩ :=
  scan_bare draft (isBare_reference identifier)

theorem word_mixed (quoted : Bool) (text name : String) :
    ((reference name).toList.foldl Draft.addLive
      (text.toList.foldl Draft.addDead { quoted })).word = mixed quoted text name := by
  have live : '$' ∈ (reference name).toList := by
    rw [toList_reference]
    exact List.mem_cons_self
  rw [Draft.foldl_addDead, Draft.foldl_addLive]
  simp [Draft.word, Draft.flags, mixed, live]

theorem holds_mixed (words : List Word) {text spelling name : String}
    (protection : Protects text spelling) (identifier : isIdentifier name = true) :
    Holds (scan ⟨words, .between⟩ (spelling ++ reference name).toList)
      (words ++ [mixed (!spelling.isEmpty) text name]) := by
  rw [String.toList_append, scan_append]
  cases protection with
  | quotes =>
      have shown : (single text).isEmpty = false :=
        isEmpty_eq_of_toList String.toList_ofList
      rw [shown, ← word_mixed, scan_single_between, scan_reference _ identifier]
      exact .inside words _
  | backslashes =>
      have spelled : (backslashed text).toList =
          text.toList.flatMap fun character => ['\\', character] := String.toList_ofList
      rw [isEmpty_eq_of_toList spelled, spelled, ← word_mixed]
      cases characters : text.toList with
      | nil =>
          have bare := scan_bare_between words (isBare_reference identifier)
            ⟨'$', by rw [toList_reference]; rfl, by decide⟩
          have holds := Holds.inside words ((reference name).toList.foldl Draft.addLive {})
          rwa [← bare] at holds
      | cons first rest =>
          have visible : isBlank '\\' = false := by decide
          have begun := scan_begins words visible (by decide)
            (first :: rest.flatMap fun character => ['\\', character])
          have read := scan_backslashed words (Draft.quote {}) rfl (first :: rest)
          rw [List.flatMap_cons, List.cons_append, List.cons_append, List.nil_append] at read ⊢
          rw [begun, scan_backslash, read, scan_reference _ identifier]
          exact .inside words _

theorem lexLine_pair {command argument : String} {first second : Word}
    (holds : Holds (scan {} command.toList) [first])
    (read : ∀ words, Holds (scan ⟨words, .between⟩ argument.toList) (words ++ [second])) :
    lexLine (command ++ " " ++ argument) = .ok [first, second] := by
  rw [lexLine, String.toList_append, String.toList_append, scan_append, scan_append]
  have spaced : scan (scan {} command.toList) " ".toList = ⟨[first], .between⟩ := holds.space
  rw [spaced]
  exact (read [first]).finish

end Lexer

namespace Shell

theorem expandWord_mixed (shell : Shell) (quoted : Bool) (text name : String) :
    shell.expandWord (Quoting.mixed quoted text name) =
      let delivered := shell.expandText (text ++ Quoting.reference name)
      if delivered.isEmpty && !quoted then [] else [delivered] := by
  have different : text ++ Quoting.reference name ≠ allArguments := by
    intro same
    have spelled : (text ++ Quoting.reference name).toList =
        (text.toList ++ '$' :: '{' :: name.toList) ++ ['}'] := by
      simp [Quoting.toList_reference]
    have last := congrArg List.getLast? spelled
    rw [same, List.getLast?_concat] at last
    revert last
    decide
  simp [expandWord, Quoting.mixed, different]

end Shell

theorem Execution.runFields_recorder [Script.Language] {session : Session} {label : String} {status : Status}
    (unshadowed : session.shell.functions.find? label = none)
    (enabled : session.shell.extensions.find? label = some (.recorder label status))
    (nested : Nested) (line : Int32) (texts : List String) :
    runFields nested line (label :: texts) session =
      record label status (texts.map Word.literal) session := by
  rw [runFields, Run.get_bind]
  simp only [unshadowed, enabled]
  rfl

namespace Session

structure NamesRecorder (session : Session) (command label : String) (status : Status) : Prop where
  read : ∃ word, Lexer.Holds (Lexer.scan {} command.toList) [word] ∧ isInversion word = false ∧
    word.assignment? = none ∧ session.shell.expandWord word = [label]
  unshadowed : session.shell.functions.find? label = none
  enabled : session.shell.extensions.find? label = some (.recorder label status)

/-- A line gives a recorder these fields, and does nothing else. -/
def Records [Script.Language] (session : Session) (line label : String) (status : Status)
    (fields : List String) : Prop :=
  runLine line session =
    (status,
      { session with
        shell := session.shell.finish status
        events := session.events.push (.recorded label (fields.map Word.literal)) })

theorem records_word [Script.Language] {session : Session} {command argument label : String} {status : Status}
    {shape : RecordShape} {word : Word} (shaped : session.shell.shape = some shape)
    (names : session.NamesRecorder command label status)
    (read : ∀ words, Lexer.Holds (Lexer.scan ⟨words, .between⟩ argument.toList) (words ++ [word])) :
    session.Records (command ++ " " ++ argument) label status (session.shell.expandWord word) := by
  obtain ⟨first, holds, upright, notAssigned, expanded⟩ := names.read
  have lexed := Lexer.lexLine_pair holds read
  have command : Shell.assignments? [first, word] = none := by
    simp [Shell.assignments?, notAssigned]
  have fields : session.shell.expandWords [first, word] =
      label :: session.shell.expandWord word := by
    simp [Shell.expandWords, expanded]
  obtain ⟨nested, same⟩ := executeCommand_eq_runWords shaped [first, word]
  have ran : Execution.runWords nested 0 [first, word] session =
      Execution.record label status ((session.shell.expandWord word).map Word.literal) session := by
    rw [Execution.runWords_eq_runFields nested 0 command, fields]
    exact Execution.runFields_recorder names.unshadowed names.enabled nested 0 _
  rw [Records, runLine_eq_executeCommand lexed upright shaped, same, Run.bind_of_eq session ran]
  rfl

end Session

/-- A live reference beside a protected text: the text is expanded with it. It arrives as it is if no
dollar in it begins a reference. -/
theorem reference_beside_text [Script.Language] {session : Session} {shape : RecordShape}
    {command label text spelling name : String} {status : Status}
    (shaped : session.shell.shape = some shape)
    (names : session.NamesRecorder command label status)
    (protection : Quoting.Protects text spelling) (identifier : isIdentifier name = true) :
    let line := command ++ " " ++ (spelling ++ Quoting.reference name)
    let delivered := session.shell.expandText (text ++ Quoting.reference name)
    session.Records line label status
        (if delivered.isEmpty && spelling.isEmpty then [] else [delivered]) ∧
      (Template.isLiteral text = true →
        delivered = text ++ (session.shell.bindings.value? name).getD "") := by
  intro line delivered
  have read := fun words => Lexer.holds_mixed words protection identifier
  have records := Session.records_word shaped names read
  rw [Shell.expandWord_mixed, Bool.not_not] at records
  refine ⟨records, ?_⟩
  intro literal
  have closed := notMem_of_isIdentifier identifier '}' (by decide)
  rw [← session.shell.parameter_of_isIdentifier identifier]
  exact Template.fill_append_reference literal closed _

def recording : Session :=
  let session := Session.new {} .bare
  let shell := session.shell.extend "rec" (.recorder "rec" .success)
  { session with shell := (shell.assign "A" "x").assign "B" "y" }

theorem recording_names : recording.NamesRecorder "rec" "rec" .success where
  read := ⟨_, Lexer.scan_name [] (by decide), by decide, by decide, rfl⟩
  unshadowed := rfl
  enabled := rfl

theorem reference_beside_text_lone_dollar :
    Template.isLiteral "it's 5$" = true ∧
      recording.shell.expandText ("it's 5$" ++ Quoting.reference "B") = "it's 5$" ++ "y" ∧
      recording.Records ("rec" ++ " " ++ ("'it'\\''s 5$'" ++ Quoting.reference "B")) "rec" .success
        ["it's 5$y"] := by
  have identifier : isIdentifier "B" = true := by decide
  have protection : Quoting.Protects "it's 5$" (Quoting.single "it's 5$") := .quotes
  have recorded := reference_beside_text rfl recording_names protection identifier
  have literal : Template.isLiteral "it's 5$" = true := by decide
  exact ⟨literal, recorded.2 literal, recorded.1⟩

theorem quoted_dollar_expanded :
    let line := "rec" ++ " " ++ (Quoting.single "$A" ++ Quoting.reference "B")
    recording.Records line "rec" .success ["xy"] ∧
      ¬ recording.Records line "rec" .success ["$A" ++ "y"] := by
  intro line
  have identifier : isIdentifier "B" = true := by decide
  have protection : Quoting.Protects "$A" (Quoting.single "$A") := .quotes
  have records := Session.records_word rfl recording_names fun words =>
    Lexer.holds_mixed words protection identifier
  refine ⟨records, ?_⟩
  intro literal
  have same := congrArg (fun ended => ended.2.events) (records.symm.trans literal)
  revert same
  decide

end ScriptedShell
