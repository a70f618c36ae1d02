import Mathlib.Data.List.Basic
import ScriptedShell.Word.Lexer

/-!
Writing a text so that the shell reads it back: between single quotes, with each quote in it written as
a quote, a backslash and two quotes. Whatever the text, it comes out as one word that is not expanded.
-/

namespace ScriptedShell

namespace Quoting

def escape (character : Char) : List Char :=
  if character = '\'' then ['\'', '\\', '\'', '\''] else [character]

def single (text : String) : String :=
  String.ofList ('\'' :: (text.toList.flatMap escape ++ ['\'']))

def arguments : List String → String
  | [] => ""
  | text :: rest => " " ++ single text ++ arguments rest

def plain (name : String) : Word :=
  ⟨name, {}⟩

/-- The word that a text between single quotes becomes. -/
def guarded (text : String) : Word :=
  ⟨text,
    { quoted := true
      assignment := isAssignmentText text
      noExpand := text.toList.contains '$' }⟩

end Quoting

theorem isNamePart_iff (character : Char) :
    isNamePart character = true ↔ isNameStart character = true ∨ character.isDigit = true := by
  simp only [isNamePart, isNameStart, Char.isAlphanum, Bool.or_eq_true]
  exact or_right_comm

theorem isNamePart_of_isNameStart {character : Char} (start : isNameStart character = true) :
    isNamePart character = true :=
  (isNamePart_iff character).mpr (.inl start)

theorem toNat_of_isNameStart {character : Char} (start : isNameStart character = true) :
    (65 ≤ character.toNat ∧ character.toNat ≤ 90) ∨ character.toNat = 95 ∨
      (97 ≤ character.toNat ∧ character.toNat ≤ 122) := by
  delta isNameStart Char.isAlpha Char.isUpper Char.isLower at start
  simp only [Bool.or_eq_true, Bool.and_eq_true, decide_eq_true_eq, beq_iff_eq,
    UInt32.le_iff_toNat_le] at start
  rcases start with (⟨low, high⟩ | ⟨low, high⟩) | rfl
  · exact .inl ⟨low, high⟩
  · exact .inr (.inr ⟨low, high⟩)
  · exact .inr (.inl rfl)

theorem toNat_of_isDigit {character : Char} (digit : character.isDigit = true) :
    48 ≤ character.toNat ∧ character.toNat ≤ 57 := by
  simpa [Char.isDigit, UInt32.le_iff_toNat_le] using digit

theorem isBlank_of_isNamePart {character : Char} (part : isNamePart character = true) :
    isBlank character = false := by
  simp only [isBlank, blankRanges, List.any_cons, List.any_nil, Bool.or_false, Bool.or_eq_false_iff,
    Bool.and_eq_false_iff, decide_eq_false_iff_not, Nat.not_le]
  rcases (isNamePart_iff character).mp part with start | digit
  · have range := toNat_of_isNameStart start
    omega
  · have range := toNat_of_isDigit digit
    omega

theorem ne_of_isNamePart {character : Char} (part : isNamePart character = true) (mark : Char)
    (special : isNamePart mark = false) : character ≠ mark := by
  rintro rfl
  rw [part] at special
  contradiction

theorem splitAtFirst_eq_none {mark : Char} {characters : List Char} (absent : mark ∉ characters) :
    splitAtFirst mark characters = none := by
  induction characters with
  | nil => rfl
  | cons first rest ih =>
      simp only [List.mem_cons, not_or] at absent
      simp [splitAtFirst, Ne.symm absent.1, ih absent.2]

theorem isIdentifierChars_append {name text : List Char} (identifier : isIdentifierChars name = true)
    (parts : ∀ character ∈ text, isNamePart character = true) :
    isIdentifierChars (name ++ text) = true := by
  cases name with
  | nil => contradiction
  | cons first rest =>
      simp only [isIdentifierChars, Bool.and_eq_true, List.all_eq_true] at identifier
      simp only [List.cons_append, isIdentifierChars, Bool.and_eq_true, List.all_eq_true]
      refine ⟨identifier.1, ?_⟩
      intro character member
      rcases List.mem_append.mp member with inName | inText
      · exact identifier.2 character inName
      · exact parts character inText

theorem isNamePart_of_isIdentifier {name : String} (identifier : isIdentifier name = true) :
    ∀ character ∈ name.toList, isNamePart character = true := by
  unfold isIdentifier at identifier
  cases characters : name.toList with
  | nil => exact nofun
  | cons first rest =>
      rw [characters] at identifier
      simp only [isIdentifierChars, Bool.and_eq_true, List.all_eq_true] at identifier
      intro character member
      rcases List.mem_cons.mp member with rfl | later
      · exact isNamePart_of_isNameStart identifier.1
      · exact identifier.2 character later

theorem notMem_of_isIdentifier {name : String} (identifier : isIdentifier name = true) (mark : Char)
    (special : isNamePart mark = false) : mark ∉ name.toList :=
  fun member => ne_of_isNamePart (isNamePart_of_isIdentifier identifier mark member) mark special rfl

theorem starts_iff {text : String} :
    (∃ first ∈ text.toList.head?, first ≠ '#') ↔ text ≠ "" ∧ text.toList.head? ≠ some '#' := by
  rw [Ne, ← String.toList_eq_nil_iff]
  cases text.toList with
  | nil => simp
  | cons first rest => simp

theorem start_of_isIdentifier {name : String} (identifier : isIdentifier name = true) :
    ∃ first ∈ name.toList.head?, first ≠ '#' := by
  have noComment := notMem_of_isIdentifier identifier '#' (by decide)
  have given : name ≠ "" := by
    rintro rfl
    contradiction
  exact starts_iff.mpr ⟨given, fun head => noComment (List.mem_of_mem_head? head)⟩

theorem isAssignmentText_of_isIdentifier {name : String} (identifier : isIdentifier name = true) :
    isAssignmentText name = false := by
  rw [isAssignmentText, splitAtFirst_eq_none (notMem_of_isIdentifier identifier '=' (by decide))]

theorem isEmpty_of_isIdentifier {name : String} (identifier : isIdentifier name = true) :
    name.isEmpty = false := by
  rw [Bool.eq_false_iff, Ne, String.isEmpty_iff]
  rintro rfl
  contradiction

namespace Lexer

open Quoting

theorem scan_append (state : State) (first second : List Char) :
    scan state (first ++ second) = scan (scan state first) second :=
  List.foldl_append

theorem scan_cons (state : State) (character : Char) (rest : List Char) :
    scan state (character :: rest) = scan (step state character) rest :=
  rfl

namespace Draft

theorem foldl_addLive (characters : List Char) (draft : Draft) :
    characters.foldl addLive draft =
      { draft with
        text := draft.text ++ String.ofList characters
        liveDollar := draft.liveDollar || characters.contains '$' } := by
  induction characters generalizing draft with
  | nil => simp
  | cons first rest ih =>
      rw [List.foldl_cons, ih]
      simp only [addLive, List.contains_cons, Bool.or_assoc, String.ext_iff, Draft.mk.injEq]
      simp [Bool.beq_comm]

theorem foldl_addDead (characters : List Char) (draft : Draft) :
    characters.foldl addDead draft =
      { draft with
        text := draft.text ++ String.ofList characters
        deadDollar := draft.deadDollar || characters.contains '$' } := by
  induction characters generalizing draft with
  | nil => simp
  | cons first rest ih =>
      rw [List.foldl_cons, ih]
      simp only [addDead, List.contains_cons, Bool.or_assoc, String.ext_iff, Draft.mk.injEq]
      simp [Bool.beq_comm]

end Draft

/-- The words are complete, but for a blank behind the last one. -/
inductive Holds : State → List Word → Prop where
  | between (words : List Word) : Holds ⟨words, .between⟩ words
  | inside (words : List Word) (draft : Draft) :
      Holds ⟨words, .inside .bare draft⟩ (words ++ [draft.word])

variable {words : List Word}

theorem Holds.finish {state : State} (holds : Holds state words) :
    Lexer.finish state = .ok words := by
  cases holds with
  | between => rfl
  | inside words draft => rfl

theorem Holds.blank {state : State} (holds : Holds state words) {blank : Char}
    (blanks : isBlank blank = true) : step state blank = ⟨words, .between⟩ := by
  cases holds with
  | between => simp [step, blanks]
  | inside words draft => simp [step, stepBare, blanks]

theorem Holds.space {state : State} (holds : Holds state words) :
    step state ' ' = ⟨words, .between⟩ :=
  holds.blank (by decide)

def isBare (character : Char) : Bool :=
  !isBlank character && character != '\'' && character != '"' && character != '\\'

theorem isBare_iff {character : Char} :
    isBare character = true ↔
      isBlank character = false ∧ character ≠ '\'' ∧ character ≠ '"' ∧ character ≠ '\\' := by
  simp [isBare, and_assoc]

theorem isBare_of_isNamePart {character : Char} (part : isNamePart character = true) :
    isBare character = true := by
  have quote := ne_of_isNamePart part '\'' (by decide)
  have double := ne_of_isNamePart part '"' (by decide)
  have backslash := ne_of_isNamePart part '\\' (by decide)
  exact isBare_iff.mpr ⟨isBlank_of_isNamePart part, quote, double, backslash⟩

theorem stepBare_bare (words : List Word) (draft : Draft) {character : Char}
    (bare : isBare character = true) :
    stepBare words draft character = ⟨words, .inside .bare (draft.addLive character)⟩ := by
  obtain ⟨visible, quote, double, backslash⟩ := isBare_iff.mp bare
  simp [stepBare, visible, quote, double, backslash]

theorem scan_bare (draft : Draft) {characters : List Char}
    (bare : ∀ character ∈ characters, isBare character = true) :
    scan ⟨words, .inside .bare draft⟩ characters =
      ⟨words, .inside .bare (characters.foldl Draft.addLive draft)⟩ := by
  induction characters generalizing draft with
  | nil => rfl
  | cons first rest ih =>
      obtain ⟨now, later⟩ := List.forall_mem_cons.mp bare
      have stepped : step ⟨words, .inside .bare draft⟩ first = stepBare words draft first := rfl
      rw [scan_cons, stepped, stepBare_bare words draft now, ih _ later]
      rfl

theorem scan_begins (words : List Word) {first : Char} (visible : isBlank first = false)
    (noComment : first ≠ '#') (rest : List Char) :
    scan ⟨words, .between⟩ (first :: rest) = scan ⟨words, .inside .bare {}⟩ (first :: rest) := by
  simp [scan_cons, step, visible, noComment]

theorem scan_bare_between (words : List Word) {characters : List Char}
    (bare : ∀ character ∈ characters, isBare character = true)
    (start : ∃ first ∈ characters.head?, first ≠ '#') :
    scan ⟨words, .between⟩ characters =
      ⟨words, .inside .bare (characters.foldl Draft.addLive {})⟩ := by
  obtain ⟨first, head, noComment⟩ := start
  obtain ⟨rest, rfl⟩ := List.head?_eq_some_iff.mp head
  have now := isBare_iff.mp (bare first List.mem_cons_self)
  rw [scan_begins words now.1 noComment, scan_bare {} bare]

theorem scan_name (words : List Word) {name : String} (identifier : isIdentifier name = true) :
    Holds (scan ⟨words, .between⟩ name.toList) (words ++ [plain name]) := by
  have parts := isNamePart_of_isIdentifier identifier
  have noDollar := notMem_of_isIdentifier identifier '$' (by decide)
  have word : (name.toList.foldl Draft.addLive {}).word = plain name := by
    rw [Draft.foldl_addLive]
    simp [Draft.word, Draft.flags, plain, noDollar, isAssignmentText_of_isIdentifier identifier]
  have bare : ∀ character ∈ name.toList, isBare character = true :=
    fun character member => isBare_of_isNamePart (parts character member)
  rw [← word, scan_bare_between words bare (start_of_isIdentifier identifier)]
  exact .inside words _

theorem scan_escaped (draft : Draft) (quoted : draft.quoted = true) (characters : List Char) :
    scan ⟨words, .inside .single draft⟩ (characters.flatMap escape) =
      ⟨words, .inside .single (characters.foldl Draft.addDead draft)⟩ := by
  induction characters generalizing draft with
  | nil => rfl
  | cons first rest ih =>
      have one : scan ⟨words, .inside .single draft⟩ (escape first) =
          ⟨words, .inside .single (draft.addDead first)⟩ := by
        by_cases quote : first = '\''
        · subst quote
          have same : (draft.quote.addDead '\'').quote = draft.addDead '\'' := by
            simp [Draft.quote, Draft.addDead, quoted]
          rw [← same]
          rfl
        · simp [escape, quote, scan, step]
      rw [List.flatMap_cons, scan_append, one, ih (draft.addDead first) quoted]
      rfl

theorem scan_single_inside (draft : Draft) (text : String) :
    scan ⟨words, .inside .bare draft⟩ (single text).toList =
      ⟨words, .inside .bare (text.toList.foldl Draft.addDead draft.quote)⟩ := by
  have visible : isBlank '\'' = false := by decide
  have opened : step ⟨words, .inside .bare draft⟩ '\'' = ⟨words, .inside .single draft.quote⟩ := by
    simp [step, stepBare, visible]
  rw [single, String.toList_ofList, scan_cons, opened, scan_append, scan_escaped _ rfl]
  rfl

theorem scan_single_between (words : List Word) (text : String) :
    scan ⟨words, .between⟩ (single text).toList =
      ⟨words, .inside .bare (text.toList.foldl Draft.addDead (Draft.quote {}))⟩ := by
  rw [← scan_single_inside, single, String.toList_ofList]
  exact scan_begins words (by decide) (by decide) _

theorem scan_single (words : List Word) (text : String) :
    Holds (scan ⟨words, .between⟩ (single text).toList) (words ++ [guarded text]) := by
  have word : (text.toList.foldl Draft.addDead (Draft.quote {})).word = guarded text := by
    rw [Draft.foldl_addDead]
    simp [Draft.word, Draft.flags, Draft.quote, guarded]
  rw [← word, scan_single_between]
  exact .inside words _

theorem scan_arguments {state : State} (holds : Holds state words) (texts : List String) :
    Holds (scan state (Quoting.arguments texts).toList) (words ++ texts.map guarded) := by
  induction texts generalizing state words with
  | nil => simpa [Quoting.arguments, scan] using holds
  | cons first rest ih =>
      have characters : (Quoting.arguments (first :: rest)).toList =
          ' ' :: ((single first).toList ++ (Quoting.arguments rest).toList) := by
        simp [Quoting.arguments]
      have more := ih (scan_single words first)
      rw [List.append_assoc] at more
      rw [characters, scan_cons, holds.space, scan_append]
      exact more

end Lexer

open Lexer

theorem lexLine_function {function : String} (identifier : isIdentifier function = true)
    (texts : List String) :
    lexLine (function ++ Quoting.arguments texts) =
      .ok (Quoting.plain function :: texts.map Quoting.guarded) := by
  rw [lexLine, String.toList_append, scan_append]
  exact (scan_arguments (scan_name [] identifier) texts).finish

theorem lexLine_single (name : String) (texts : List String) :
    lexLine (Quoting.single name ++ Quoting.arguments texts) =
      .ok ((name :: texts).map Quoting.guarded) := by
  rw [lexLine, String.toList_append, scan_append]
  exact (scan_arguments (scan_single [] name) texts).finish

end ScriptedShell
