import Mathlib.Data.List.Chain
import ScriptedShell.Proofs.Reference

/-!
The grammar of references. A text is a sequence of items, of which only two say anything about the item
behind them: a name runs on as long as it can, and a dollar that stands for itself must not begin a
reference. Reading gives the items back, and every text has such a sequence, but for a brace that is left
open at its end.
-/

namespace ScriptedShell

def beginsReference (character : Char) : Bool :=
  character == '{' || character.isDigit || isSpecialParameter character || isNameStart character

namespace Piece

def first : Piece → Char
  | .literal character => character
  | .dollar | .braced _ | .unclosed _ | .single _ | .named _ => '$'

/-- What an item may hold. A brace that is left open is no item, as nothing can stand behind it. -/
def isItem : Piece → Bool
  | .literal character => character != '$'
  | .dollar => true
  | .braced name => !name.contains '}'
  | .unclosed _ => false
  | .single name => name.isDigit || isSpecialParameter name
  | .named name => isIdentifierChars name

def endsBefore (character : Char) : Piece → Bool
  | .named _ => !isNamePart character
  | .dollar => !beginsReference character
  | .literal _ | .braced _ | .unclosed _ | .single _ => true

theorem head?_spelling (piece : Piece) (rest : List Char) :
    (piece.spelling ++ rest).head? = some piece.first := by
  cases piece with
  | literal character => rfl
  | dollar => rfl
  | braced name => rfl
  | unclosed name => rfl
  | single name => rfl
  | named name => rfl

theorem endsBefore_dollar (piece : Piece) : piece.endsBefore '$' = true := by
  cases piece with
  | named name => rfl
  | dollar => rfl
  | literal character => rfl
  | braced name => rfl
  | unclosed name => rfl
  | single name => rfl

end Piece

namespace Template

def spell (pieces : List Piece) : String :=
  String.ofList (pieces.flatMap Piece.spelling)

/-- Items one behind the other, each of which ends where the next one begins. -/
def Grammatical (pieces : List Piece) : Prop :=
  (∀ piece ∈ pieces, piece.isItem = true) ∧
    pieces.IsChain fun piece next => piece.endsBefore next.first = true

instance (pieces : List Piece) : Decidable (Grammatical pieces) :=
  inferInstanceAs (Decidable (_ ∧ _))

theorem head?_spellings (pieces : List Piece) (rest : List Char) :
    (pieces.flatMap Piece.spelling ++ rest).head? = (pieces.head?.map Piece.first).or rest.head? := by
  cases pieces with
  | nil => simp
  | cons piece later =>
      rw [List.flatMap_cons, List.append_assoc, Piece.head?_spelling]
      rfl

theorem readFrom_item {piece : Piece} (item : piece.isItem = true) {rest : List Char}
    (ends : ∀ character ∈ rest.head?, piece.endsBefore character = true) :
    readFrom .nothing (piece.spelling ++ rest) = piece :: readFrom .nothing rest := by
  cases piece with
  | literal character =>
      have other : character ≠ '$' := bne_iff_ne.mp item
      simp [Piece.spelling, readFrom, other]
  | dollar =>
      cases rest with
      | nil => rfl
      | cons next later =>
          have alone : beginsReference next = false := by simpa [Piece.endsBefore] using ends next rfl
          simp only [beginsReference, Bool.or_eq_false_iff, beq_eq_false_iff_ne] at alone
          obtain ⟨⟨⟨noBrace, noDigit⟩, noSpecial⟩, noName⟩ := alone
          by_cases dollar : next = '$'
          · subst dollar
            rfl
          · simp [Piece.spelling, readFrom, noBrace, noDigit, noSpecial, noName, dollar]
  | braced name =>
      have closed : '}' ∉ name := by simpa [Piece.isItem] using item
      have spelled : Piece.spelling (.braced name) ++ rest = '$' :: '{' :: (name ++ '}' :: rest) := by
        simp [Piece.spelling]
      rw [spelled]
      exact readFrom_braced [] rest closed
  | unclosed name => contradiction
  | single name =>
      have noBrace : name ≠ '{' := by
        rintro rfl
        contradiction
      have opened : readFrom .nothing (Piece.spelling (.single name) ++ rest) =
          readFrom .dollar (name :: rest) := rfl
      have special : (name.isDigit || isSpecialParameter name) = true := item
      rw [opened, readFrom, if_neg noBrace, if_pos special]
  | named name => exact readFrom_identifier item (by simpa [Piece.endsBefore] using ends)

theorem Grammatical.of_cons {piece : Piece} {later : List Piece} (grammatical : Grammatical (piece :: later)) :
    piece.isItem = true ∧ (∀ next ∈ later.head?, piece.endsBefore next.first = true) ∧ Grammatical later := by
  obtain ⟨items, chain⟩ := grammatical
  obtain ⟨item, others⟩ := List.forall_mem_cons.mp items
  obtain ⟨ends, linked⟩ := List.isChain_cons.mp chain
  exact ⟨item, ends, others, linked⟩

theorem readFrom_items {pieces : List Piece} (grammatical : Grammatical pieces) {rest : List Char}
    (apart : ∀ character ∈ rest.head?, character = '$') :
    readFrom .nothing (pieces.flatMap Piece.spelling ++ rest) = pieces ++ readFrom .nothing rest := by
  induction pieces with
  | nil => rfl
  | cons piece later ih =>
      obtain ⟨item, ends, others⟩ := grammatical.of_cons
      have ends : ∀ character ∈ (later.flatMap Piece.spelling ++ rest).head?,
          piece.endsBefore character = true := by
        intro character member
        rw [head?_spellings] at member
        cases next : later.head? with
        | some item =>
            rw [next] at member
            cases member
            exact ends item next
        | none =>
            rw [next] at member
            rw [apart character member]
            exact piece.endsBefore_dollar
      rw [List.flatMap_cons, List.append_assoc, readFrom_item item ends, ih others]
      rfl

/-- What stands behind the items of a text: nothing, or a brace that is left open. -/
inductive Ending : List Piece → Prop where
  | nothing : Ending []
  | unclosed {name : List Char} (noBrace : '}' ∉ name) : Ending [.unclosed name]

def Complete (pieces : List Piece) : Prop :=
  ∃ items ending, pieces = items ++ ending ∧ Grammatical items ∧ Ending ending

theorem Complete.nil : Complete [] :=
  ⟨[], [], rfl, ⟨nofun, .nil⟩, .nothing⟩

theorem Complete.unclosed {name : List Char} (noBrace : '}' ∉ name) : Complete [.unclosed name] :=
  ⟨[], _, rfl, ⟨nofun, .nil⟩, .unclosed noBrace⟩

theorem Complete.cons {piece : Piece} {later : List Piece} (complete : Complete later)
    (item : piece.isItem = true)
    (ends : ∀ next ∈ later.head?, piece.endsBefore next.first = true) : Complete (piece :: later) := by
  obtain ⟨items, ending, rfl, grammatical, ended⟩ := complete
  refine ⟨piece :: items, ending, rfl, ?_, ended⟩
  refine ⟨List.forall_mem_cons.mpr ⟨item, grammatical.1⟩, grammatical.2.cons ?_⟩
  intro next member
  exact ends next (List.mem_head?_append_of_mem_head? member)

theorem Complete.single {piece : Piece} (item : piece.isItem = true) : Complete [piece] :=
  Complete.nil.cons item (by simp)

theorem first_readFrom (pending : Pending) (characters : List Char) :
    (readFrom pending characters).head?.map Piece.first = (pending.spelling ++ characters).head? := by
  have begins := head?_spellings (readFrom pending characters) []
  rw [List.append_nil, spelling_readFrom] at begins
  rw [begins]
  exact (Option.or_none).symm

theorem endsBefore_of_dollar {pending : Pending} {characters : List Char}
    (begins : (pending.spelling ++ characters).head? = some '$') (piece : Piece) :
    ∀ next ∈ (readFrom pending characters).head?, piece.endsBefore next.first = true := by
  intro next member
  rw [← first_readFrom, Option.mem_def.mp member] at begins
  rw [Option.some.inj begins]
  exact piece.endsBefore_dollar

def Pending.Sound : Pending → Prop
  | .nothing | .dollar => True
  | .braced name => '}' ∉ name
  | .named name => isIdentifierChars name.reverse = true

theorem Complete.literal {later : List Piece} (complete : Complete later) {character : Char}
    (other : character ≠ '$') : Complete (.literal character :: later) :=
  complete.cons (bne_iff_ne.mpr other) fun _ _ => rfl

theorem complete_readFrom {pending : Pending} (sound : pending.Sound) (characters : List Char) :
    Complete (readFrom pending characters) := by
  fun_induction readFrom pending characters with
  | case1 => exact .nil
  | case2 later ih => exact ih trivial
  | case3 character later notDollar ih => exact (ih trivial).literal notDollar
  | case4 => exact .single rfl
  | case5 later ih => exact ih List.not_mem_nil
  | case6 character later notBrace special ih => exact (ih trivial).cons special fun _ _ => rfl
  | case7 character later notBrace notSpecial start ih =>
      exact ih (by simp [Pending.Sound, isIdentifierChars, start])
  | case8 later _ _ _ ih => exact (ih trivial).cons rfl (endsBefore_of_dollar rfl .dollar)
  | case9 character later notBrace notSpecial notStart notDollar ih =>
      refine ((ih trivial).literal notDollar).cons rfl ?_
      rintro next ⟨⟩
      rw [Bool.or_eq_true, not_or] at notSpecial
      simp [Piece.endsBefore, Piece.first, beginsReference, notBrace, notSpecial, notStart]
  | case10 name => exact .unclosed (by simpa [Pending.Sound] using sound)
  | case11 name later ih =>
      exact (ih trivial).cons (by simpa [Piece.isItem, Pending.Sound] using sound) fun _ _ => rfl
  | case12 name character later notClosed ih =>
      refine ih ?_
      rw [Pending.Sound, List.mem_cons, not_or]
      exact ⟨Ne.symm notClosed, sound⟩
  | case13 name => exact .single sound
  | case14 name character later part ih =>
      refine ih ?_
      rw [Pending.Sound, List.reverse_cons]
      exact isIdentifierChars_append sound (by simpa using part)
  | case15 name later _ ih => exact (ih trivial).cons sound (endsBefore_of_dollar rfl (.named name.reverse))
  | case16 name character later notPart notDollar ih =>
      refine ((ih trivial).literal notDollar).cons sound ?_
      rintro next ⟨⟩
      simpa [Piece.endsBefore, Piece.first] using notPart

theorem complete_read (text : String) : Complete (read text) := by
  have sound : Pending.nothing.Sound := trivial
  exact complete_readFrom sound text.toList

theorem readFrom_braced_open (before : List Char) {name : List Char} (noBrace : '}' ∉ name) :
    readFrom (.braced before) name = [.unclosed (before.reverse ++ name)] := by
  induction name generalizing before with
  | nil => simp [readFrom]
  | cons first later ih =>
      simp only [List.mem_cons, not_or] at noBrace
      rw [readFrom, if_neg (Ne.symm noBrace.1), ih _ noBrace.2]
      simp

theorem Ending.readFrom_eq {ending : List Piece} (ended : Ending ending) :
    (∀ character ∈ (ending.flatMap Piece.spelling).head?, character = '$') ∧
      readFrom .nothing (ending.flatMap Piece.spelling) = ending := by
  cases ended with
  | nothing => exact ⟨nofun, rfl⟩
  | @unclosed name noBrace =>
      have spelled : [Piece.unclosed name].flatMap Piece.spelling = '$' :: '{' :: name := by
        simp [Piece.spelling]
      rw [spelled]
      exact ⟨fun _ member => (Option.mem_some.mp member).symm, readFrom_braced_open [] noBrace⟩

theorem read_spell {pieces : List Piece} (complete : Complete pieces) :
    read (spell pieces) = pieces := by
  obtain ⟨items, ending, rfl, grammatical, ended⟩ := complete
  obtain ⟨apart, last⟩ := ended.readFrom_eq
  rw [read, spell, String.toList_ofList, List.flatMap_append, readFrom_items grammatical apart, last]

theorem spell_read (text : String) : spell (read text) = text := by
  rw [spell, read, spelling_readFrom]
  exact String.ofList_toList

/-- The pieces of a text are the one sequence of items that it spells, with an open brace at most at its
end. -/
theorem read_eq_iff {text : String} {pieces : List Piece} :
    read text = pieces ↔ Complete pieces ∧ spell pieces = text := by
  constructor
  · rintro rfl
    exact ⟨complete_read text, spell_read text⟩
  · rintro ⟨complete, rfl⟩
    exact read_spell complete

theorem Grammatical.complete {items : List Piece} (grammatical : Grammatical items) : Complete items :=
  ⟨items, [], (List.append_nil items).symm, grammatical, .nothing⟩

theorem Grammatical.complete_open {items : List Piece} (grammatical : Grammatical items) {name : String}
    (noBrace : '}' ∉ name.toList) : Complete (items ++ [.unclosed name.toList]) :=
  ⟨items, _, rfl, grammatical, .unclosed noBrace⟩

theorem spell_open (items : List Piece) (name : String) :
    spell (items ++ [.unclosed name.toList]) = spell items ++ "$\x7b" ++ name := by
  simp [spell, Piece.spelling, ← String.toList_inj]

theorem fill_spell {pieces : List Piece} (complete : Complete pieces) (parameter : String → String) :
    fill parameter (spell pieces) = String.join (pieces.map (Piece.value parameter)) := by
  rw [fill, read_spell complete]

end Template

open Template

/-- Expansion reads exactly the grammar. Whatever the items of a text, what it expands to are their values one
behind the other, in which nothing is looked for again; and every text has such items, with a brace that is
left open behind them at most, whose name is the rest of the text. -/
theorem expansion_follows_grammar :
    (∀ items : List Piece, Grammatical items → ∀ shell : Shell,
      shell.expandText (spell items) = String.join (items.map (Piece.value shell.parameter))) ∧
    (∀ (items : List Piece) (name : String), Grammatical items → '}' ∉ name.toList → ∀ shell : Shell,
      shell.expandText (spell items ++ "$\x7b" ++ name) =
        String.join (items.map (Piece.value shell.parameter)) ++ shell.parameter name) ∧
    ∀ text : String, ∃ items : List Piece, Grammatical items ∧
      (text = spell items ∨
        ∃ name : String, '}' ∉ name.toList ∧ text = spell items ++ "$\x7b" ++ name) := by
  refine ⟨?closed, ?unclosed, ?every⟩
  case closed =>
    intro items grammatical shell
    exact fill_spell grammatical.complete shell.parameter
  case unclosed =>
    intro items name grammatical noBrace shell
    have filled := fill_spell (grammatical.complete_open noBrace) shell.parameter
    rw [spell_open] at filled
    rw [Shell.expandText, filled]
    simp [Piece.value, String.join_append]
  case every =>
    intro text
    obtain ⟨items, ending, split, grammatical, ended⟩ := complete_read text
    have spelled : spell (items ++ ending) = text := split ▸ spell_read text
    refine ⟨items, grammatical, ?_⟩
    cases ended with
    | nothing =>
        rw [List.append_nil] at spelled
        exact .inl spelled.symm
    | @unclosed name noBrace =>
        refine .inr ⟨String.ofList name, by simpa using noBrace, ?_⟩
        rw [← spelled, ← spell_open, String.toList_ofList]

theorem expansion_follows_grammar_mixed :
    let shell := { ((Shell.new {}).assign "A" "$1\x7b").enterFunction ["x$A", "b c"] with lastStatus := 7 }
    let items : List Piece :=
      [.literal 'a', .named ['A'], .dollar, .literal ' ', .dollar, .braced ['A', ' '], .single '1',
        .literal '0', .named ['A', '_', '1'], .single '?', .single '*', .dollar]
    Grammatical items ∧ spell items = "a$A$ $$\x7bA \x7d$10$A_1$?$*$" ∧
      shell.expandText "a$A$ $$\x7bA \x7d$10$A_1$?$*$" = "a$1\x7b$ $x$A07x$A b c$" ∧
      shell.expandText "a$A$ $$\x7bA \x7d$10$A_1$?$*$$\x7bA" = "a$1\x7b$ $x$A07x$A b c$$1\x7b" := by
  intro shell items
  have grammatical : Grammatical items := by decide
  have spelled : spell items = "a$A$ $$\x7bA \x7d$10$A_1$?$*$" := by decide
  have joined : String.join (items.map (Piece.value shell.parameter)) = "a$1\x7b$ $x$A07x$A b c$" := by
    decide
  have closed := expansion_follows_grammar.1 items grammatical shell
  have opened := expansion_follows_grammar.2.1 items "A" grammatical (by decide) shell
  have value : shell.parameter "A" = "$1\x7b" := by decide
  rw [spelled, joined] at closed
  rw [spelled, joined, value] at opened
  exact ⟨grammatical, spelled, closed, opened⟩

end ScriptedShell
