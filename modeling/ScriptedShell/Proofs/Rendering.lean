import ScriptedShell.Proofs.LexedWord

/-!
Writing words so that a line with them is read back as the same words. Each word has one written form;
it is the word's text as it is, or between double quotes, or between single quotes.
-/

namespace ScriptedShell

namespace Quoting

/-- Between double quotes a backslash keeps a double quote or a backslash from its meaning; a dollar
keeps its own. -/
def escapeDouble (character : Char) : List Char :=
  if character = '"' ∨ character = '\\' then ['\\', character] else [character]

def double (text : String) : String :=
  String.ofList ('"' :: (text.toList.flatMap escapeDouble ++ ['"']))

end Quoting

def Word.render (word : Word) : String :=
  if !word.flags.quoted then word.text
  else if word.flags.hasDollar then Quoting.double word.text
  else Quoting.single word.text

def renderWords (words : List Word) : String :=
  " ".intercalate (words.map Word.render)

theorem renderWords_cons (word : Word) (rest : List Word) :
    (renderWords (word :: rest)).toList =
      word.render.toList ++ rest.flatMap fun next => ' ' :: next.render.toList := by
  induction rest generalizing word with
  | nil => simp [renderWords]
  | cons next rest ih =>
      have joined : renderWords (word :: next :: rest) =
          word.render ++ " " ++ renderWords (next :: rest) := String.intercalate_cons_cons
      rw [joined, String.toList_append, String.toList_append, ih next]
      simp

namespace Lexer

open Quoting

variable {words : List Word}

theorem addDead_eq_addLive (draft : Draft) {character : Char} (noDollar : character ≠ '$') :
    draft.addDead character = draft.addLive character := by
  simp [Draft.addDead, Draft.addLive, noDollar]

theorem scan_escapedDouble (draft : Draft) (characters : List Char) :
    scan ⟨words, .inside .double draft⟩ (characters.flatMap escapeDouble) =
      ⟨words, .inside .double (characters.foldl Draft.addLive draft)⟩ := by
  induction characters generalizing draft with
  | nil => rfl
  | cons first rest ih =>
      have one : scan ⟨words, .inside .double draft⟩ (escapeDouble first) =
          ⟨words, .inside .double (draft.addLive first)⟩ := by
        by_cases special : first = '"' ∨ first = '\\'
        · have noDollar : first ≠ '$' := by
            rintro rfl
            simp at special
          have unescaped : unescape draft first = draft.addLive first := by
            rw [← addDead_eq_addLive draft noDollar, unescape, if_pos]
            tauto
          rw [escapeDouble, if_pos special, ← unescaped]
          rfl
        · rw [escapeDouble, if_neg special]
          rw [not_or] at special
          simp [scan, step, special]
      rw [List.flatMap_cons, scan_append, one, ih (draft.addLive first)]
      rfl

theorem scan_double_inside (draft : Draft) (text : String) :
    scan ⟨words, .inside .bare draft⟩ (double text).toList =
      ⟨words, .inside .bare (text.toList.foldl Draft.addLive draft.quote)⟩ := by
  have visible : isBlank '"' = false := by decide
  have opened : step ⟨words, .inside .bare draft⟩ '"' = ⟨words, .inside .double draft.quote⟩ := by
    simp [step, stepBare, visible]
  rw [double, String.toList_ofList, scan_cons, opened, scan_append, scan_escapedDouble]
  rfl

theorem scan_double (words : List Word) (text : String) :
    scan ⟨words, .between⟩ (double text).toList =
      ⟨words, .inside .bare (text.toList.foldl Draft.addLive (Draft.quote {}))⟩ := by
  rw [← scan_double_inside, double, String.toList_ofList]
  exact scan_begins words (by decide) (by decide) _

end Lexer

namespace Word.Lexed

open Quoting

variable {word : Word}

theorem hasDollar_of_expandable (lexed : word.Lexed) (expandable : word.flags.noExpand = false) :
    word.flags.hasDollar = word.text.toList.contains '$' := by
  rw [Bool.eq_iff_iff, List.contains_iff_mem, lexed.dollars, expandable]
  simp

theorem eq_of_expandable (lexed : word.Lexed) (expandable : word.flags.noExpand = false) :
    word = ⟨word.text,
      { hasDollar := word.text.toList.contains '$'
        quoted := word.flags.quoted
        assignment := isAssignmentText word.text }⟩ := by
  have dollars := lexed.hasDollar_of_expandable expandable
  have assignment := lexed.assignment
  obtain ⟨text, flags⟩ := word
  obtain ⟨hasDollar, quoted, isAssignment, noExpand⟩ := flags
  simp only at expandable dollars assignment
  rw [expandable, dollars, assignment]

theorem eq_guarded (lexed : word.Lexed) (quoted : word.flags.quoted = true)
    (dead : word.flags.hasDollar = false) : word = guarded word.text := by
  have dollars : word.flags.noExpand = word.text.toList.contains '$' := by
    rw [Bool.eq_iff_iff, List.contains_iff_mem, lexed.dollars, dead]
    simp
  have assignment := lexed.assignment
  obtain ⟨text, flags⟩ := word
  obtain ⟨hasDollar, isQuoted, isAssignment, noExpand⟩ := flags
  simp only at quoted dead dollars assignment
  rw [quoted, dead, dollars, assignment, guarded]

end Word.Lexed

namespace Lexer

open Quoting

variable {words : List Word} {word : Word}

theorem holds_render (lexed : word.Lexed) (words : List Word) :
    Holds (scan ⟨words, .between⟩ word.render.toList) (words ++ [word]) := by
  unfold Word.render
  cases quoted : word.flags.quoted with
  | false =>
      have expandable : word.flags.noExpand = false := by
        rw [Bool.eq_false_iff]
        intro dead
        rw [lexed.protection dead] at quoted
        contradiction
      have same : (word.text.toList.foldl Draft.addLive {}).word = word := by
        rw [Draft.foldl_addLive]
        simpa [Draft.word, Draft.flags, quoted] using (lexed.eq_of_expandable expandable).symm
      have read := scan_bare_between words (lexed.bare quoted) (lexed.start quoted)
      have holds := Holds.inside words (word.text.toList.foldl Draft.addLive {})
      rwa [← read, same] at holds
  | true =>
      cases live : word.flags.hasDollar with
      | true =>
          have same : (word.text.toList.foldl Draft.addLive (Draft.quote {})).word = word := by
            rw [Draft.foldl_addLive]
            simpa [Draft.word, Draft.flags, Draft.quote, quoted] using
              (lexed.eq_of_expandable (lexed.exclusive live)).symm
          have holds := Holds.inside words (word.text.toList.foldl Draft.addLive (Draft.quote {}))
          rwa [← scan_double, same] at holds
      | false =>
          have holds := scan_single words word.text
          rwa [← lexed.eq_guarded quoted live] at holds

theorem holds_renderRest {state : State} (holds : Holds state words) {rest : List Word}
    (lexed : ∀ word ∈ rest, word.Lexed) :
    Holds (scan state (rest.flatMap fun next => ' ' :: next.render.toList)) (words ++ rest) := by
  induction rest generalizing state words with
  | nil => simpa [scan] using holds
  | cons next rest ih =>
      obtain ⟨now, later⟩ := List.forall_mem_cons.mp lexed
      have more := ih (holds_render now words) later
      rw [List.append_assoc] at more
      rwa [List.flatMap_cons, scan_append, scan_cons, holds.space]

end Lexer

theorem lexLine_renderWords {words : List Word} (lexed : ∀ word ∈ words, word.Lexed) :
    lexLine (renderWords words) = .ok words := by
  cases words with
  | nil => rfl
  | cons word rest =>
      obtain ⟨now, later⟩ := List.forall_mem_cons.mp lexed
      rw [lexLine, renderWords_cons, Lexer.scan_append]
      exact (Lexer.holds_renderRest (Lexer.holds_render now []) later).finish

/-- The words of a line, written each in its own form with a space between them, are read back as they
are, with their texts and flags. So reading, writing and reading again is reading once. -/
theorem rendering_read_back (line : String) :
    (∀ words, lexLine line = .ok words → lexLine (renderWords words) = .ok words) ∧
      ((lexLine line).bind fun words => lexLine (renderWords words)) = lexLine line := by
  have readBack : ∀ words, lexLine line = .ok words → lexLine (renderWords words) = .ok words :=
    fun words read => lexLine_renderWords (lexed_of_lexLine read)
  refine ⟨readBack, ?_⟩
  cases read : lexLine line with
  | error error => rfl
  | ok words => exact readBack words read

theorem rendering_read_back_mixed :
    let line := "it\\'s '$A'$B \"\" a#b # c"
    let words : List Word :=
      [⟨"it's", { quoted := true }⟩, ⟨"$A$B", { hasDollar := true, quoted := true }⟩,
        ⟨"", { quoted := true }⟩, ⟨"a#b", {}⟩]
    lexLine line = .ok words ∧ renderWords words = "'it'\\''s' \"$A$B\" '' a#b" ∧
      lexLine "'it'\\''s' \"$A$B\" '' a#b" = .ok words := by
  intro line words
  have read : lexLine line = .ok words := by decide
  have written : renderWords words = "'it'\\''s' \"$A$B\" '' a#b" := by decide
  have again := (rendering_read_back line).1 words read
  exact ⟨read, written, written ▸ again⟩

end ScriptedShell
