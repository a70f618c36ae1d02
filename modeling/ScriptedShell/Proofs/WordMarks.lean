import ScriptedShell.Proofs.Rendering
import ScriptedShell.Session.Operation

/-!
What the flags of a word say about its text. They agree with it in every word that is read from a line,
however its quotes are mixed, and wherever they agree with it there is a line that the word is read from.
-/

namespace ScriptedShell

theorem fst_splitAtFirst (mark : Char) (characters : List Char) :
    (splitAtFirst mark characters).map Prod.fst =
      if mark ∈ characters then some (characters.takeWhile (· != mark)) else none := by
  induction characters with
  | nil => rfl
  | cons first rest ih =>
      by_cases found : first = mark
      · simp [splitAtFirst, found]
      · have later := congrArg (Option.map (first :: ·)) ih
        rw [Option.map_map] at later
        rw [splitAtFirst, if_neg found, Option.map_map]
        refine Eq.trans later ?_
        by_cases present : mark ∈ rest
        · simp [present, found]
        · simp [present, Ne.symm found]

theorem isAssignmentText_iff {text : String} :
    isAssignmentText text = true ↔
      '=' ∈ text.toList ∧ isIdentifierChars (text.toList.takeWhile (· != '=')) = true := by
  have named : isAssignmentText text =
      ((splitAtFirst '=' text.toList).map Prod.fst).any isIdentifierChars := by
    unfold isAssignmentText
    cases splitAtFirst '=' text.toList with
    | none => rfl
    | some parts => rfl
  rw [named, fst_splitAtFirst]
  by_cases present : '=' ∈ text.toList
  · simp [present]
  · simp [present]

/-- The flags of a word agree with its text. -/
structure Word.Marked (word : Word) : Prop where
  /-- A dollar is to be expanded, or it is not; one flag says which. -/
  dollar : '$' ∈ word.text.toList ↔ word.flags.hasDollar ≠ word.flags.noExpand
  exclusive : ¬(word.flags.hasDollar = true ∧ word.flags.noExpand = true)
  assignment : word.flags.assignment = true ↔
    '=' ∈ word.text.toList ∧ isIdentifierChars (word.text.toList.takeWhile (· != '=')) = true
  unquoted : word.flags.quoted = false →
    word.text ≠ "" ∧
      (∀ character ∈ word.text.toList,
        isBlank character = false ∧ character ≠ '\'' ∧ character ≠ '"' ∧ character ≠ '\\') ∧
      word.text.toList.head? ≠ some '#' ∧ word.flags.noExpand = false

namespace Word

variable {word : Word}

theorem Lexed.marked (lexed : word.Lexed) : word.Marked where
  dollar := by
    rw [lexed.dollars]
    have exclusive := lexed.exclusive
    cases live : word.flags.hasDollar with
    | true => simp [exclusive live]
    | false => cases word.flags.noExpand <;> decide
  exclusive := by
    rintro ⟨live, dead⟩
    rw [lexed.exclusive live] at dead
    contradiction
  assignment := by rw [lexed.assignment, isAssignmentText_iff]
  unquoted := by
    intro unquoted
    obtain ⟨given, noComment⟩ := starts_iff.mp (lexed.start unquoted)
    have bare := fun character member => Lexer.isBare_iff.mp (lexed.bare unquoted character member)
    refine ⟨given, bare, noComment, ?_⟩
    rw [Bool.eq_false_iff]
    intro dead
    rw [lexed.protection dead] at unquoted
    contradiction

theorem Marked.lexed (marked : word.Marked) : word.Lexed where
  dollars := by
    rw [marked.dollar]
    have exclusive := marked.exclusive
    revert exclusive
    cases word.flags.hasDollar <;> cases word.flags.noExpand <;> decide
  exclusive := by
    intro live
    rw [Bool.eq_false_iff]
    exact fun dead => marked.exclusive ⟨live, dead⟩
  assignment := by rw [Bool.eq_iff_iff, marked.assignment, isAssignmentText_iff]
  protection := by
    intro dead
    rw [← Bool.not_eq_false]
    intro unquoted
    rw [(marked.unquoted unquoted).2.2.2] at dead
    contradiction
  bare := by
    intro unquoted character member
    exact Lexer.isBare_iff.mpr ((marked.unquoted unquoted).2.1 character member)
  start := by
    intro unquoted
    obtain ⟨given, _, noComment, _⟩ := marked.unquoted unquoted
    exact starts_iff.mpr ⟨given, noComment⟩

end Word

/-- The words that lines are made of are those whose flags agree with their texts. -/
theorem exists_line_iff {words : List Word} :
    (∃ line, lexLine line = .ok words) ↔ ∀ word ∈ words, word.Marked := by
  constructor
  · rintro ⟨line, read⟩ word member
    exact (lexed_of_lexLine read word member).marked
  · intro marked
    have lexed : ∀ word ∈ words, word.Lexed := fun word member => (marked word member).lexed
    exact ⟨renderWords words, lexLine_renderWords lexed⟩

theorem Session.readLine_eq_nothing_iff (shell : Shell) (number : Int32) (line : String) :
    readLine shell number line = .nothing ↔ lexLine line = .ok [] := by
  unfold readLine
  cases read : lexLine line with
  | error error => simp
  | ok words =>
      cases words with
      | nil => simp
      | cons first rest =>
          cases made : Command.make shell.shape (splitInversion (first :: rest)).2 with
          | ok command => simp [made]
          | error fault => simp [made]

/-- The flags of every word that is read agree with its text. Only a blank line or a comment has no words, and it
is no list of words to run but nothing to run at all. -/
theorem read_words_marked {line : String} {words : List Word} (read : lexLine line = .ok words) :
    (∀ word ∈ words, word.Marked) ∧
      (words = [] ↔ isBlankLine line = true) ∧
      ∀ shell number, words = [] ↔ Session.readLine shell number line = .nothing := by
  have none : words = [] ↔ lexLine line = .ok [] := by rw [read, Except.ok.injEq]
  refine ⟨exists_line_iff.mp ⟨line, read⟩, ?_, ?_⟩
  · rw [none, lexLine_eq_nil_iff]
  · intro shell number
    rw [none, Session.readLine_eq_nothing_iff]

theorem read_words_marked_mixed :
    let line := "it\\'s '$A'$B \\$ \"\" a#b \"X\"=$1 =y # c"
    let words : List Word :=
      [⟨"it's", { quoted := true }⟩, ⟨"$A$B", { hasDollar := true, quoted := true }⟩,
        ⟨"$", { quoted := true, noExpand := true }⟩, ⟨"", { quoted := true }⟩, ⟨"a#b", {}⟩,
        ⟨"X=$1", { hasDollar := true, quoted := true, assignment := true }⟩, ⟨"=y", {}⟩]
    lexLine line = .ok words ∧ (∀ word ∈ words, word.Marked) ∧ isBlankLine line = false := by
  intro line words
  have read : lexLine line = .ok words := by decide
  obtain ⟨marked, blank, _⟩ := read_words_marked read
  refine ⟨read, marked, ?_⟩
  rw [Bool.eq_false_iff]
  exact fun blanks => List.cons_ne_nil _ _ (blank.mpr blanks)

end ScriptedShell
