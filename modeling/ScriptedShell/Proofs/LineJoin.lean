import ScriptedShell.Proofs.LexedWord

/-!
Lines joined at a blank. Where the words of a line are complete, nothing of them is left over at the blank:
what stands behind it is read as a line of its own, and its words come behind the others.
-/

namespace ScriptedShell

open Quoting

namespace Lexer

def State.behind (past : List Word) (state : State) : State :=
  { state with words := past ++ state.words }

section

variable (past : List Word)

theorem stepBare_behind (words : List Word) (draft : Draft) (character : Char) :
    stepBare (past ++ words) draft character = (stepBare words draft character).behind past := by
  unfold stepBare
  split
  · simp only [State.behind, List.append_assoc]
  · -- The character goes on with a word: the words stay as they are.
    split
    · rfl
    · split
      · rfl
      · split
        · rfl
        · rfl

theorem step_behind (state : State) (character : Char) :
    step (state.behind past) character = (step state character).behind past := by
  obtain ⟨words, mode⟩ := state
  cases mode with
  | comment => rfl
  | between =>
      simp only [step, State.behind]
      split
      · rfl
      · split
        · rfl
        · exact stepBare_behind past words {} character
  | inside context draft =>
      cases context with
      | bare => exact stepBare_behind past words draft character
      | bareEscape => rfl
      | single =>
          simp only [step, State.behind]
          split
          · rfl
          · rfl
      | double =>
          simp only [step, State.behind]
          split
          · rfl
          · split
            · rfl
            · rfl
      | doubleEscape => rfl

theorem scan_behind (state : State) (characters : List Char) :
    scan (state.behind past) characters = (scan state characters).behind past := by
  induction characters generalizing state with
  | nil => rfl
  | cons character rest ih => rw [scan_cons, scan_cons, step_behind, ih]

theorem finish_behind (state : State) :
    finish (state.behind past) = (finish state).map (past ++ ·) := by
  obtain ⟨words, mode⟩ := state
  cases mode with
  | between => rfl
  | comment => rfl
  | inside context draft =>
      cases context with
      | bare => simp only [finish, State.behind, List.append_assoc, Except.map]
      | bareEscape => simp only [finish, State.behind, List.append_assoc, Except.map]
      | single => rfl
      | double => rfl
      | doubleEscape => rfl

end

/-- One more word shows whether a line is complete. In a comment it would be lost, and behind a backslash the
blank would not end the last word. -/
theorem holds_of_more {state : State} {words : List Word} {more : Word}
    (finished : finish state = .ok words)
    (followed : finish (scan state [' ', 'x']) = .ok (words ++ [more])) : Holds state words := by
  obtain ⟨past, mode⟩ := state
  cases mode with
  | between =>
      cases finished
      exact .between past
  | comment =>
      cases finished
      rw [scan_comment] at followed
      have lost : past = past ++ [more] := Except.ok.inj followed
      simp at lost
  | inside context draft =>
      cases context with
      | bare =>
          cases finished
          exact .inside past draft
      | bareEscape =>
          cases finished
          have grown : past ++ [((draft.addDead ' ').addLive 'x').word] = past ++ [draft.word] ++ [more] :=
            Except.ok.inj followed
          simp at grown
      | single => contradiction
      | double => contradiction
      | doubleEscape => contradiction

end Lexer

theorem lexLine_joined {line : String} {words : List Word}
    (holds : Lexer.Holds (Lexer.scan {} line.toList) words) {blank : Char}
    (blanks : isBlank blank = true) (rest : String) :
    lexLine (line ++ blank.toString ++ rest) = (lexLine rest).map (words ++ ·) := by
  have characters : (line ++ blank.toString ++ rest).toList = line.toList ++ blank :: rest.toList := by
    simp
  have begun : (⟨words, .between⟩ : Lexer.State) = Lexer.State.behind words {} := by
    simp [Lexer.State.behind]
  rw [lexLine, characters, Lexer.scan_append, Lexer.scan_cons, holds.blank blanks, begun,
    Lexer.scan_behind, Lexer.finish_behind]
  rfl

theorem isBlankLine_comment (comment : String) : isBlankLine ("#" ++ comment) = true := by
  have visible : isBlank '#' = false := by decide
  simp [isBlankLine, visible]

/-- A line that is complete, as one word behind it shows, can be followed by any line at a blank. The line behind
fails as it would fail alone, or its words come behind the others; a comment adds none. -/
theorem lines_join_at_blank {line : String} {words : List Word} (read : lexLine line = .ok words)
    (followed : lexLine (line ++ " x") = .ok (words ++ [plain "x"])) {blank : Char}
    (blanks : isBlank blank = true) :
    (∀ rest error, lexLine rest = .error error →
        lexLine (line ++ blank.toString ++ rest) = .error error) ∧
      (∀ rest more, lexLine rest = .ok more →
        lexLine (line ++ blank.toString ++ rest) = .ok (words ++ more)) ∧
      ∀ comment, lexLine (line ++ blank.toString ++ ("#" ++ comment)) = .ok words := by
  rw [lexLine, String.toList_append, Lexer.scan_append] at followed
  have holds := Lexer.holds_of_more read followed
  have joined := lexLine_joined holds blanks
  refine ⟨?fails, ?reads, ?comment⟩
  case fails =>
    intro rest error failed
    rw [joined, failed]
    rfl
  case reads =>
    intro rest more behind
    rw [joined, behind]
    rfl
  case comment =>
    intro comment
    have none := (lexLine_eq_nil_iff _).mpr (isBlankLine_comment comment)
    rw [joined, none]
    exact congrArg Except.ok (List.append_nil words)

theorem lines_join_at_blank_quoted :
    let line := "a\\ b '# ' \"$B\"c"
    let words : List Word := [guarded "a b", guarded "# ", ⟨"$Bc", { hasDollar := true, quoted := true }⟩]
    lexLine line = .ok words ∧
      lexLine (line ++ "\t" ++ "d \"e") = .error .unclosedDoubleQuote ∧
      lexLine (line ++ "\t" ++ "d#e # f") = .ok (words ++ [plain "d#e"]) ∧
      lexLine (line ++ "\t" ++ ("#" ++ "'")) = .ok words := by
  intro line words
  have read : lexLine line = .ok words := by decide
  have followed : lexLine (line ++ " x") = .ok (words ++ [plain "x"]) := by decide
  have tab : '\t'.toString = "\t" := rfl
  have blanks : isBlank '\t' = true := by decide
  have joined := lines_join_at_blank read followed blanks
  rw [tab] at joined
  obtain ⟨fails, reads, comments⟩ := joined
  exact ⟨read, fails _ _ (by decide), reads _ _ (by decide), comments "'"⟩

end ScriptedShell
