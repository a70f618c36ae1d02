import ScriptedShell.Proofs.Quoting

/-!
What is true of every word that is cut from a line. The invariant goes through the reader's states:
a draft that has begun is at any moment a word of this kind.
-/

namespace ScriptedShell

structure Word.Lexed (word : Word) : Prop where
  dollars : '$' ∈ word.text.toList ↔ word.flags.hasDollar = true ∨ word.flags.noExpand = true
  exclusive : word.flags.hasDollar = true → word.flags.noExpand = false
  assignment : word.flags.assignment = isAssignmentText word.text
  protection : word.flags.noExpand = true → word.flags.quoted = true
  bare : word.flags.quoted = false → ∀ character ∈ word.text.toList, Lexer.isBare character = true
  start : word.flags.quoted = false → ∃ first ∈ word.text.toList.head?, first ≠ '#'

namespace Lexer

namespace Draft

/-- What is true of a draft even before its first character. -/
structure Sound (draft : Draft) : Prop where
  dollars : '$' ∈ draft.text.toList ↔ draft.liveDollar = true ∨ draft.deadDollar = true
  protection : draft.deadDollar = true → draft.quoted = true
  bare : draft.quoted = false → ∀ character ∈ draft.text.toList, isBare character = true

/-- A draft that is a word should the line end here. -/
def Begun (draft : Draft) : Prop :=
  draft.quoted = false → ∃ first ∈ draft.text.toList.head?, first ≠ '#'

variable {draft : Draft}

theorem sound_empty : Sound {} where
  dollars := by simp
  protection := nofun
  bare := fun _ => nofun

theorem Sound.lexed (sound : draft.Sound) (begun : draft.Begun) : draft.word.Lexed where
  dollars := by
    rw [word, sound.dollars]
    cases live : draft.liveDollar <;> simp [flags, live]
  exclusive := by
    intro live
    rw [word] at live ⊢
    simp only [flags] at live ⊢
    rw [live]
    rfl
  assignment := rfl
  protection := by
    intro dead
    simp only [word, flags, Bool.and_eq_true] at dead
    exact sound.protection dead.2
  bare := sound.bare
  start := begun

theorem Sound.quote (sound : draft.Sound) : draft.quote.Sound where
  dollars := sound.dollars
  protection := fun _ => rfl
  bare := nofun

theorem Sound.addLive (sound : draft.Sound) {character : Char}
    (bare : draft.quoted = true ∨ isBare character = true) : (draft.addLive character).Sound where
  dollars := by
    have dollars := sound.dollars
    simp only [Draft.addLive, String.toList_push, List.mem_append, List.mem_singleton,
      Bool.or_eq_true, beq_iff_eq, eq_comm (a := character)]
    tauto
  protection := sound.protection
  bare := by
    intro unquoted other member
    simp only [Draft.addLive, String.toList_push, List.mem_append, List.mem_singleton] at unquoted member
    rcases member with earlier | rfl
    · exact sound.bare unquoted other earlier
    · exact bare.resolve_left (Bool.eq_false_iff.mp unquoted)

theorem Sound.addDead (sound : draft.Sound) (quoted : draft.quoted = true) (character : Char) :
    (draft.addDead character).Sound where
  dollars := by
    have dollars := sound.dollars
    simp only [Draft.addDead, String.toList_push, List.mem_append, List.mem_singleton,
      Bool.or_eq_true, beq_iff_eq, eq_comm (a := character)]
    tauto
  protection := fun _ => quoted
  bare := by
    intro unquoted
    have unquoted : draft.quoted = false := unquoted
    rw [quoted] at unquoted
    contradiction

theorem Begun.addLive (begun : draft.Begun) (character : Char) :
    (draft.addLive character).Begun := by
  intro unquoted
  obtain ⟨first, head, noComment⟩ := begun unquoted
  refine ⟨first, ?_, noComment⟩
  rw [Draft.addLive, String.toList_push]
  exact List.mem_head?_append_of_mem_head? head

theorem begun_of_quoted (quoted : draft.quoted = true) : draft.Begun := by
  intro unquoted
  rw [quoted] at unquoted
  contradiction

end Draft

theorem unescape_quoted (draft : Draft) (character : Char) :
    (unescape draft character).quoted = draft.quoted := by
  unfold unescape
  split
  · rfl
  · rfl

theorem sound_unescape {draft : Draft} (sound : draft.Sound) (quoted : draft.quoted = true)
    (character : Char) : (unescape draft character).Sound := by
  unfold unescape
  split
  · exact sound.addDead quoted character
  · exact (sound.addDead quoted '\\').addDead quoted character

inductive State.Sound : State → Prop where
  | between {words : List Word} (lexed : ∀ word ∈ words, word.Lexed) : Sound ⟨words, .between⟩
  | comment {words : List Word} (lexed : ∀ word ∈ words, word.Lexed) : Sound ⟨words, .comment⟩
  | bare {words : List Word} {draft : Draft} (lexed : ∀ word ∈ words, word.Lexed)
      (sound : draft.Sound) (begun : draft.Begun) : Sound ⟨words, .inside .bare draft⟩
  | quoted {words : List Word} {draft : Draft} (lexed : ∀ word ∈ words, word.Lexed)
      (sound : draft.Sound) (quoted : draft.quoted = true) (context : Context) :
      Sound ⟨words, .inside context draft⟩

variable {words : List Word}

theorem lexed_concat {draft : Draft} (lexed : ∀ word ∈ words, word.Lexed) (sound : draft.Sound)
    (begun : draft.Begun) : ∀ word ∈ words ++ [draft.word], word.Lexed := by
  intro word member
  rcases List.mem_append.mp member with earlier | last
  · exact lexed word earlier
  · rw [List.mem_singleton.mp last]
    exact sound.lexed begun

theorem sound_stepBare {draft : Draft} (lexed : ∀ word ∈ words, word.Lexed) (sound : draft.Sound)
    {character : Char} (visible : isBlank character = false)
    (begun : (draft.addLive character).Begun) : (stepBare words draft character).Sound := by
  unfold stepBare
  rw [visible]
  split
  · contradiction
  · split
    · exact .quoted lexed sound.quote rfl .single
    · split
      · exact .quoted lexed sound.quote rfl .double
      · split
        · exact .quoted lexed sound.quote rfl .bareEscape
        · rename_i quote double backslash
          refine .bare lexed (sound.addLive (.inr ?_)) begun
          exact isBare_iff.mpr ⟨visible, quote, double, backslash⟩

theorem sound_stepBare_of_begun {draft : Draft} (lexed : ∀ word ∈ words, word.Lexed)
    (sound : draft.Sound) (begun : draft.Begun) (character : Char) :
    (stepBare words draft character).Sound := by
  cases visible : isBlank character with
  | true =>
      rw [stepBare, visible]
      exact .between (lexed_concat lexed sound begun)
  | false => exact sound_stepBare lexed sound visible (begun.addLive character)

theorem sound_step {state : State} (sound : state.Sound) (character : Char) :
    (step state character).Sound := by
  cases sound with
  | between lexed =>
      simp only [step]
      split
      · exact .between lexed
      · rename_i visible
        split
        · exact .comment lexed
        · rename_i noComment
          have begun : (({} : Draft).addLive character).Begun :=
            fun _ => ⟨character, by simp [Draft.addLive], noComment⟩
          exact sound_stepBare lexed Draft.sound_empty (Bool.eq_false_iff.mpr visible) begun
  | comment lexed => exact .comment lexed
  | bare lexed sound begun => exact sound_stepBare_of_begun lexed sound begun character
  | quoted lexed sound quoted context =>
      cases context with
      | bare =>
          exact sound_stepBare_of_begun lexed sound (Draft.begun_of_quoted quoted) character
      | bareEscape => exact .quoted lexed (sound.addDead quoted character) quoted .bare
      | single =>
          simp only [step]
          split
          · exact .quoted lexed sound quoted .bare
          · exact .quoted lexed (sound.addDead quoted character) quoted .single
      | double =>
          simp only [step]
          split
          · exact .quoted lexed sound quoted .bare
          · split
            · exact .quoted lexed sound quoted .doubleEscape
            · exact .quoted lexed (sound.addLive (.inl quoted)) quoted .double
      | doubleEscape =>
          refine .quoted lexed (sound_unescape sound quoted character) ?_ .double
          rw [unescape_quoted, quoted]

theorem sound_scan {state : State} (sound : state.Sound) (characters : List Char) :
    (scan state characters).Sound := by
  induction characters generalizing state with
  | nil => exact sound
  | cons first rest ih => exact ih (sound_step sound first)

theorem State.Sound.finish {state : State} (sound : state.Sound)
    (finished : Lexer.finish state = .ok words) : ∀ word ∈ words, word.Lexed := by
  cases sound with
  | between lexed =>
      cases finished
      exact lexed
  | comment lexed =>
      cases finished
      exact lexed
  | bare lexed sound begun =>
      cases finished
      exact lexed_concat lexed sound begun
  | quoted lexed sound quoted context =>
      have closed := lexed_concat lexed sound (Draft.begun_of_quoted quoted)
      cases context with
      | bare =>
          cases finished
          exact closed
      | bareEscape =>
          cases finished
          exact closed
      | single => contradiction
      | double => contradiction
      | doubleEscape => contradiction

end Lexer

theorem lexed_of_lexLine {line : String} {words : List Word} (read : lexLine line = .ok words) :
    ∀ word ∈ words, word.Lexed := by
  have start : Lexer.State.Sound {} := .between nofun
  exact (Lexer.sound_scan start line.toList).finish read

namespace Lexer

def State.HasWord (state : State) : Prop :=
  state.words ≠ [] ∨ ∃ context draft, state.mode = .inside context draft

theorem hasWord_stepBare (words : List Word) (draft : Draft) (character : Char) :
    (stepBare words draft character).HasWord := by
  unfold stepBare
  split
  · exact .inl (by simp)
  · split
    · exact .inr ⟨_, _, rfl⟩
    · split
      · exact .inr ⟨_, _, rfl⟩
      · split
        · exact .inr ⟨_, _, rfl⟩
        · exact .inr ⟨_, _, rfl⟩

theorem State.HasWord.step {state : State} (begun : state.HasWord) (character : Char) :
    (Lexer.step state character).HasWord := by
  obtain ⟨words, mode⟩ := state
  cases mode with
  | between =>
      have complete : words ≠ [] := begun.resolve_right nofun
      simp only [Lexer.step]
      split
      · exact .inl complete
      · split
        · exact .inl complete
        · exact hasWord_stepBare _ _ _
  | comment => exact begun
  | inside context draft =>
      cases context with
      | bare => exact hasWord_stepBare _ _ _
      | bareEscape => exact .inr ⟨_, _, rfl⟩
      | single =>
          simp only [Lexer.step]
          split
          · exact .inr ⟨_, _, rfl⟩
          · exact .inr ⟨_, _, rfl⟩
      | double =>
          simp only [Lexer.step]
          split
          · exact .inr ⟨_, _, rfl⟩
          · split
            · exact .inr ⟨_, _, rfl⟩
            · exact .inr ⟨_, _, rfl⟩
      | doubleEscape => exact .inr ⟨_, _, rfl⟩

theorem State.HasWord.scan {state : State} (begun : state.HasWord) (characters : List Char) :
    (Lexer.scan state characters).HasWord := by
  induction characters generalizing state with
  | nil => exact begun
  | cons first rest ih => exact ih (begun.step first)

theorem State.HasWord.finish {state : State} (begun : state.HasWord) :
    Lexer.finish state ≠ .ok [] := by
  intro finished
  obtain ⟨words, mode⟩ := state
  cases mode with
  | between => exact begun.elim (· (Except.ok.inj finished)) nofun
  | comment => exact begun.elim (· (Except.ok.inj finished)) nofun
  | inside context draft => cases context <;> simp [Lexer.finish] at finished

theorem scan_comment (words : List Word) (characters : List Char) :
    scan ⟨words, .comment⟩ characters = ⟨words, .comment⟩ := by
  induction characters with
  | nil => rfl
  | cons first rest ih => exact ih

end Lexer

/-- Nothing but blank characters, up to the end of the line or to a comment. -/
def isBlankLine (line : String) : Bool :=
  (line.toList.dropWhile isBlank).head?.all (· == '#')

theorem lexLine_eq_nil_iff (line : String) : lexLine line = .ok [] ↔ isBlankLine line = true := by
  unfold lexLine isBlankLine
  induction line.toList with
  | nil => simp [Lexer.scan, Lexer.finish]
  | cons first rest ih =>
      rw [Lexer.scan_cons, List.dropWhile_cons]
      cases blank : isBlank first with
      | true =>
          have skipped : Lexer.step {} first = {} := by simp [Lexer.step, blank]
          rw [skipped, if_pos rfl]
          exact ih
      | false =>
          rw [if_neg Bool.false_ne_true]
          by_cases comment : first = '#'
          · subst comment
            have entered : Lexer.step {} '#' = ⟨[], .comment⟩ := by
              simp [Lexer.step, blank]
            rw [entered, Lexer.scan_comment]
            simp [Lexer.finish]
          · have started : Lexer.step {} first = Lexer.stepBare [] {} first := by
              simp [Lexer.step, blank, comment]
            have begun := (Lexer.hasWord_stepBare [] {} first).scan rest
            rw [started]
            simp [comment, begun.finish]

end ScriptedShell
