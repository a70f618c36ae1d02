import Mathlib.Data.List.TakeWhile
import ScriptedShell.Proofs.Forwarding
import ScriptedShell.Script.Standard

/-!
Where the name of a reference ends. A word keeps no trace of where its quotes stood, so a name runs on
through them; a brace ends it.
-/

namespace ScriptedShell

theorem isIdentifier_append {name text : String} (identifier : isIdentifier name = true)
    (parts : ∀ character ∈ text.toList, isNamePart character = true) :
    isIdentifier (name ++ text) = true := by
  rw [isIdentifier, String.toList_append]
  exact isIdentifierChars_append identifier parts

namespace Quoting

/-- The ways to write two texts as one word with quotes around one of them. -/
inductive Joins (before after : String) : String → Prop where
  | single : Joins before after (before ++ single after)
  | double : Joins before after (before ++ double after)
  | behind (bare : ∀ character ∈ after.toList, Lexer.isBare character = true) :
      Joins before after (double before ++ after)

def leadingName (text : String) : String :=
  String.ofList (text.toList.takeWhile isNamePart)

def behindName (text : String) : String :=
  String.ofList (text.toList.dropWhile isNamePart)

theorem leadingName_append_behindName (text : String) : leadingName text ++ behindName text = text := by
  simp [leadingName, behindName, ← String.toList_inj]

theorem isNamePart_of_leadingName (text : String) :
    ∀ character ∈ (leadingName text).toList, isNamePart character = true := by
  intro character member
  rw [leadingName, String.toList_ofList] at member
  exact List.mem_takeWhile_imp member

theorem stops_behindName (text : String) :
    ∀ character ∈ (behindName text).toList.head?, isNamePart character = false := by
  intro character member
  rw [behindName, String.toList_ofList] at member
  have stopped := List.head?_dropWhile_not isNamePart text.toList
  rw [Option.mem_def.mp member] at stopped
  simpa using stopped

theorem leadingName_of_parts {text : String}
    (parts : ∀ character ∈ text.toList, isNamePart character = true) :
    leadingName text = text ∧ behindName text = "" := by
  have all : text.toList.takeWhile isNamePart = text.toList :=
    List.takeWhile_eq_self_iff.mpr parts
  have none : text.toList.dropWhile isNamePart = [] :=
    List.dropWhile_eq_nil_iff.mpr parts
  constructor
  · simp [leadingName, all]
  · simp [behindName, none]

end Quoting

namespace Lexer

open Quoting

theorem holds_joined {before after spelling : String} (joins : Joins before after spelling)
    (bare : ∀ character ∈ before.toList, isBare character = true)
    (dollar : before.toList.head? = some '$') (words : List Word) :
    Holds (scan ⟨words, .between⟩ spelling.toList) (words ++ [referring true (before ++ after)]) := by
  have live : '$' ∈ before.toList := List.mem_of_mem_head? dollar
  have begun := scan_bare_between words bare ⟨'$', dollar, by decide⟩
  cases joins with
  | single =>
      have word : (after.toList.foldl Draft.addDead (before.toList.foldl Draft.addLive {}).quote).word =
          referring true (before ++ after) := by
        rw [Draft.foldl_addLive, Draft.foldl_addDead]
        simp [Draft.word, Draft.flags, Draft.quote, referring, live]
      rw [String.toList_append, scan_append, begun, scan_single_inside, ← word]
      exact .inside words _
  | double =>
      have word : (after.toList.foldl Draft.addLive (before.toList.foldl Draft.addLive {}).quote).word =
          referring true (before ++ after) := by
        rw [Draft.foldl_addLive, Draft.foldl_addLive]
        simp [Draft.word, Draft.flags, Draft.quote, referring, live]
      rw [String.toList_append, scan_append, begun, scan_double_inside, ← word]
      exact .inside words _
  | behind rest =>
      have word : (after.toList.foldl Draft.addLive (before.toList.foldl Draft.addLive
          (Draft.quote {}))).word = referring true (before ++ after) := by
        rw [Draft.foldl_addLive, Draft.foldl_addLive]
        simp [Draft.word, Draft.flags, Draft.quote, referring, live]
      rw [String.toList_append, scan_append, scan_double, scan_bare _ rest, ← word]
      exact .inside words _

end Lexer

namespace Shell

variable (shell : Shell) {name : String}

theorem expandText_name (identifier : isIdentifier name = true) {rest : String}
    (stops : ∀ character ∈ rest.toList.head?, isNamePart character = false) :
    shell.expandText ("$" ++ name ++ rest) =
      (shell.bindings.value? name).getD "" ++ shell.expandText rest := by
  rw [← shell.parameter_of_isIdentifier identifier]
  simp [expandText, Template.fill, Template.read_name identifier _ stops, Piece.value,
    String.join_cons]

theorem expandText_reference (identifier : isIdentifier name = true) (rest : String) :
    shell.expandText (Quoting.reference name ++ rest) =
      (shell.bindings.value? name).getD "" ++ shell.expandText rest := by
  have closed := notMem_of_isIdentifier identifier '}' (by decide)
  rw [← shell.parameter_of_isIdentifier identifier]
  simp [expandText, Template.fill, Template.read_reference closed, Piece.value, String.join_cons]

theorem expandWord_referring {spelling : String} (different : spelling ≠ allArguments) :
    shell.expandWord (Quoting.referring true spelling) = [shell.expandText spelling] := by
  simp [expandWord, Quoting.referring, different]

end Shell

namespace Quoting

/-- A piece of a line is one word, wherever it stands, and becomes one field. -/
def Expands (spelling : String) (field : Shell → String) : Prop :=
  ∃ word, (∀ words, Lexer.Holds (Lexer.scan ⟨words, .between⟩ spelling.toList) (words ++ [word])) ∧
    ∀ shell : Shell, shell.expandWord word = [field shell]

theorem Expands.records [Script.Language] {session : Session} {shape : RecordShape}
    {command label spelling : String} {status : Status} {field : Shell → String}
    (expands : Expands spelling field) (shaped : session.shell.shape = some shape)
    (names : session.NamesRecorder command label status) :
    session.Records (command ++ " " ++ spelling) label status [field session.shell] := by
  obtain ⟨word, read, expanded⟩ := expands
  rw [← expanded session.shell]
  exact Session.records_word shaped names read

theorem spelling_of_name (name text : String) :
    "$" ++ name ++ text = "$" ++ (name ++ leadingName text) ++ behindName text := by
  rw [String.append_assoc, String.append_assoc, String.append_assoc, leadingName_append_behindName]

namespace Refers

variable {name reference text spelling : String}

theorem append_ne (refers : Refers name reference) (identifier : isIdentifier name = true)
    (text : String) : reference ++ text ≠ Shell.allArguments := by
  intro same
  have read : Template.read Shell.allArguments = [.single '@'] := by decide
  rw [← same] at read
  cases refers with
  | bare =>
      have longer := isIdentifier_append identifier (isNamePart_of_leadingName text)
      rw [spelling_of_name, Template.read_name longer _ (stops_behindName text)] at read
      simp at read
  | braced =>
      have closed := notMem_of_isIdentifier identifier '}' (by decide)
      rw [Template.read_reference closed] at read
      simp at read

theorem expands {field : Shell → String} (refers : Refers name reference)
    (identifier : isIdentifier name = true) (joins : Joins reference text spelling)
    (filled : ∀ shell : Shell, shell.expandText (reference ++ text) = field shell) :
    Expands spelling field := by
  refine ⟨_, Lexer.holds_joined joins (refers.isBare identifier) refers.head?, ?_⟩
  intro shell
  rw [shell.expandWord_referring (refers.append_ne identifier text), filled]

end Refers

namespace Joins

variable {name text spelling : String}

theorem expands_name (joins : Joins ("$" ++ name) text spelling)
    (identifier : isIdentifier name = true) :
    Expands spelling fun shell =>
      (shell.bindings.value? (name ++ leadingName text)).getD "" ++ shell.expandText (behindName text) := by
  have longer := isIdentifier_append identifier (isNamePart_of_leadingName text)
  refine Refers.bare.expands identifier joins ?_
  intro shell
  rw [spelling_of_name, shell.expandText_name longer (stops_behindName text)]

theorem expands_whole (joins : Joins ("$" ++ name) text spelling)
    (identifier : isIdentifier name = true)
    (parts : ∀ character ∈ text.toList, isNamePart character = true) :
    Expands spelling fun shell => (shell.bindings.value? (name ++ text)).getD "" := by
  obtain ⟨whole, nothing⟩ := leadingName_of_parts parts
  have expands := joins.expands_name identifier
  rw [whole, nothing] at expands
  simpa [Shell.expandText, Template.fill, Template.read, Template.readFrom] using expands

end Joins

end Quoting

open Quoting

/-- A quote does not end the name of a reference. The name takes what it can from the text on the other
side, and the variable of this longer name is the one that is read; a brace ends the name. -/
theorem name_runs_through_quotes {name text spelling : String}
    (identifier : isIdentifier name = true) :
    (Joins ("$" ++ name) text spelling →
        Expands spelling fun shell =>
          (shell.bindings.value? (name ++ leadingName text)).getD "" ++ shell.expandText (behindName text)) ∧
      (Joins ("$" ++ name) text spelling →
        (∀ character ∈ text.toList, isNamePart character = true) →
        Expands spelling fun shell => (shell.bindings.value? (name ++ text)).getD "") ∧
      (Joins (reference name) text spelling →
        Expands spelling fun shell =>
          (shell.bindings.value? name).getD "" ++ shell.expandText text) := by
  refine ⟨fun joins => joins.expands_name identifier, fun joins => joins.expands_whole identifier, ?_⟩
  intro joins
  refine Refers.braced.expands identifier joins ?_
  intro shell
  exact shell.expandText_reference identifier text

theorem name_runs_through_quotes_mixed :
    Expands "$A'b1'\\'' $B'" (fun shell =>
        (shell.bindings.value? "Ab1").getD "" ++ shell.expandText "' $B") ∧
      Expands "\"$A\"b1" (fun shell => (shell.bindings.value? "Ab1").getD "") ∧
      Expands "$\x7bA\x7d\"b1\"" (fun shell =>
        (shell.bindings.value? "A").getD "" ++ shell.expandText "b1") := by
  have identifier : isIdentifier "A" = true := by decide
  have parts : ∀ character ∈ "b1".toList, isNamePart character = true :=
    List.all_eq_true.mp (by decide)
  have quoted := (@name_runs_through_quotes "A" "b1' $B" _ identifier).1 .single
  have behind := (name_runs_through_quotes identifier).2.1 (.behind (List.all_eq_true.mp (by decide))) parts
  have braced := (@name_runs_through_quotes "A" "b1" _ identifier).2.2 .double
  exact ⟨quoted, behind, braced⟩

theorem quoted_text_joins_name :
    let session := { recording with shell := recording.shell.assign "Ab" "z" }
    let line := "rec" ++ " " ++ ("$" ++ "A" ++ single "b")
    session.shell.bindings.value? "A" = some "x" ∧ session.Records line "rec" .success ["z"] ∧
      ¬ session.Records line "rec" .success ["x" ++ "b"] := by
  intro session line
  have names : session.NamesRecorder "rec" "rec" .success :=
    { read := ⟨_, Lexer.scan_name [] (by decide), by decide, by decide, rfl⟩
      unshadowed := rfl
      enabled := rfl }
  have joins : Joins ("$" ++ "A") "b" ("$" ++ "A" ++ single "b") := .single
  have records : session.Records line "rec" .success ["z"] :=
    (joins.expands_whole (by decide) (List.all_eq_true.mp (by decide))).records rfl names
  refine ⟨rfl, records, ?_⟩
  intro joined
  have same := congrArg (fun ended => ended.2.events) (records.symm.trans joined)
  revert same
  decide

end ScriptedShell
