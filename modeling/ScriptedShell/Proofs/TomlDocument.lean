import Mathlib.Data.List.Forall2
import ScriptedShell.Proofs.TomlString

/-!
Documents in TOML, read line by line: what the reader makes of numbers, of keys and of the lines that give
a key its value, open a table or are blank.
-/

namespace ScriptedShell.Toml

namespace Scalar

theorem digitValue?_of_isDigit {character : Char} (digit : character.isDigit = true) :
    digitValue? 10 character = some (character.toNat - 48) := by
  have bounds : 48 ≤ character.toNat ∧ character.toNat ≤ 57 := by
    simp only [Char.isDigit, Bool.and_eq_true, decide_eq_true_eq] at digit
    exact digit
  have zero : '0'.toNat = 48 := rfl
  unfold digitValue?
  rw [if_pos digit, zero, if_pos (by omega)]

theorem readDigits?_of_isDigit {characters : List Char} (some : characters ≠ [])
    (digits : ∀ character ∈ characters, character.isDigit = true) :
    readDigits? 10 characters = Option.some (characters.map fun digit => digit.toNat - 48) := by
  induction characters with
  | nil => contradiction
  | cons first rest ih =>
      have value := digitValue?_of_isDigit (digits first List.mem_cons_self)
      have more := fun next member => digits next (List.mem_cons_of_mem first member)
      cases rest with
      | nil => rw [readDigits?, value]; rfl
      | cons second rest =>
          have noUnderscore : second ≠ '_' := by
            rintro rfl
            exact absurd (more '_' List.mem_cons_self) (by decide)
          rw [readDigits?, value, ih (List.cons_ne_nil _ _) more]
          · rfl
          · exact List.cons_ne_nil _ _
          · simpa using noUnderscore

theorem isDigit_toDigits {number : Nat} :
    ∀ character ∈ Nat.toDigits 10 number, character.isDigit = true :=
  fun _ member => Nat.isDigit_of_mem_toDigits (by decide) (by decide) member

theorem digitChar_ne_zero : ∀ digit < 10, 0 < digit → Nat.digitChar digit ≠ '0' := by
  decide

theorem head_toDigits {number : Nat} (positive : 0 < number) :
    (Nat.toDigits 10 number).head? ≠ some '0' := by
  induction number using Nat.strongRecOn with
  | ind number ih =>
      rw [Nat.toDigits_eq_if (by decide)]
      split
      · rename_i small
        intro zero
        exact digitChar_ne_zero number small positive (Option.some.inj zero)
      · have more := ih (number / 10) (by omega) (by omega)
        intro zero
        rw [List.head?_append, Option.or_eq_some_iff] at zero
        exact zero.elim more fun none => Nat.toDigits_ne_nil (List.head?_eq_none_iff.mp none.1)

theorem valueOf_toDigits (number : Nat) :
    valueOf 10 ((Nat.toDigits 10 number).map fun digit => digit.toNat - 48) = number := by
  rw [valueOf, List.foldl_map]
  exact Nat.ofDigitChars_toDigits (by decide) (by decide)

theorem head_toDigits_of_length {number : Nat} (long : 1 < (Nat.toDigits 10 number).length) {first : Char}
    (head : (Nat.toDigits 10 number).head? = some first) : first.toNat - 48 ≠ 0 := by
  have positive : 0 < number := by
    rw [Nat.pos_iff_ne_zero]
    rintro rfl
    exact absurd long (by decide)
  have digit := isDigit_toDigits first (List.mem_of_mem_head? head)
  have bounds : 48 ≤ first.toNat ∧ first.toNat ≤ 57 := by
    simp only [Char.isDigit, Bool.and_eq_true, decide_eq_true_eq] at digit
    exact digit
  intro zero
  have same : first = '0' := by
    rw [← Char.toNat_inj]
    change first.toNat = 48
    omega
  exact head_toDigits positive (same ▸ head)

theorem readPlainDigits?_toDigits (number : Nat) :
    readPlainDigits? (Nat.toDigits 10 number) =
      some ((Nat.toDigits 10 number).map fun digit => digit.toNat - 48) := by
  rw [readPlainDigits?, readDigits?_of_isDigit Nat.toDigits_ne_nil isDigit_toDigits]
  refine if_neg ?_
  simp only [Bool.and_eq_true, decide_eq_true_eq, beq_iff_eq, List.length_map, List.head?_map,
    Option.map_eq_some_iff]
  rintro ⟨long, first, head, zero⟩
  exact head_toDigits_of_length long head zero

theorem splitSign_of_isDigit {characters : List Char}
    (digits : ∀ character ∈ characters, character.isDigit = true) :
    splitSign characters = (false, characters) := by
  unfold splitSign
  split
  · exact absurd (digits '-' List.mem_cons_self) (by decide)
  · exact absurd (digits '+' List.mem_cons_self) (by decide)
  · rfl

theorem readInteger?_toDigits (number : Nat) :
    readInteger? (Nat.toDigits 10 number) = some (Int.ofNat number) := by
  have digits := @isDigit_toDigits number
  unfold readInteger?
  split
  · rename_i _ _ same
    rw [same] at digits
    exact absurd (digits 'x' (by simp)) (by decide)
  · rename_i _ _ same
    rw [same] at digits
    exact absurd (digits 'o' (by simp)) (by decide)
  · rename_i _ _ same
    rw [same] at digits
    exact absurd (digits 'b' (by simp)) (by decide)
  · rw [splitSign_of_isDigit digits]
    simp only [readPlain?, readPlainDigits?_toDigits, Option.map_some, valueOf_toDigits]
    rfl

theorem read?_toDigits (number : Nat) :
    read? (Nat.toDigits 10 number) = some (.integer number) := by
  have digits := @isDigit_toDigits number
  have noTrue : Nat.toDigits 10 number ≠ "true".toList := by
    intro same
    rw [same] at digits
    exact absurd (digits 't' (by decide)) (by decide)
  have noFalse : Nat.toDigits 10 number ≠ "false".toList := by
    intro same
    rw [same] at digits
    exact absurd (digits 'f' (by decide)) (by decide)
  rw [read?, if_neg noTrue, if_neg noFalse, readInteger?_toDigits]
  rfl

end Scalar

namespace Reader

theorem readScalar_of_read? {characters : List Char} {value : Toml}
    (scalar : ∀ character ∈ characters, isScalarCharacter character = true)
    (read : Scalar.read? characters = some value) (rest : List Char) :
    readScalar (characters ++ '\n' :: rest) = some (value, '\n' :: rest) := by
  have taken : takeWhile isScalarCharacter (characters ++ '\n' :: rest) =
      some (characters, '\n' :: rest) := by
    refine takeWhile_append scalar fun character first => ?_
    cases first
    decide
  rw [readScalar, bind_of_eq taken, get_bind]
  have kept : (pure characters : Reader (List Char)) ('\n' :: rest) =
    some (characters, '\n' :: rest) := rfl
  rcases Scalar.skipDate? characters with _ | _ | _
  all_goals
    refine (bind_of_eq kept _).trans ?_
    simp only [read]
    rfl

/-- The characters are a value that fills the rest of a line. -/
structure Fills (characters : List Char) (value : Toml) : Prop where
  visible : ∃ first more, characters = first :: more ∧ isSpace first = false
  read : ∀ fuel rest, readValue nestingLimit (fuel + 1) (characters ++ '\n' :: rest) =
    some (value, '\n' :: rest)

theorem choose_scalar {α : Type} {first : Char} (scalar : isScalarCharacter first = true)
    (string items entries other : α) :
    (match some first with
      | some '"' | some '\'' => string
      | some '[' => items
      | some '\x7b' => entries
      | _ => other) = other := by
  have marks : first ≠ '"' ∧ first ≠ '\'' ∧ first ≠ '[' ∧ first ≠ '\x7b' := by
    refine ⟨?_, ?_, ?_, ?_⟩ <;> rintro rfl <;> contradiction
  split <;> simp_all

theorem fills_scalar {characters : List Char} {value : Toml} (given : characters ≠ [])
    (scalar : characters.all isScalarCharacter = true)
    (read : Scalar.read? characters = some value) : Fills characters value := by
  rw [List.all_eq_true] at scalar
  obtain ⟨first, more, rfl⟩ := List.exists_cons_of_ne_nil given
  have start := scalar first List.mem_cons_self
  refine ⟨⟨first, more, rfl, ?_⟩, fun fuel rest => ?_⟩
  · rw [Bool.eq_false_iff]
    intro space
    simp only [isSpace, Bool.or_eq_true, beq_iff_eq] at space
    obtain rfl | rfl := space <;> contradiction
  · have ends := readScalar_of_read? scalar read rest
    have peeked : peek (first :: more ++ '\n' :: rest) =
      some (some first, first :: more ++ '\n' :: rest) := rfl
    rw [readValue, bind_of_eq peeked]
    exact (congrFun (choose_scalar start _ _ _ readScalar) _).trans ends

theorem fills_number (number : Nat) :
    Fills (toString number).toList (.integer number) := by
  have spelled : (toString number).toList = Nat.toDigits 10 number := Nat.toList_repr
  rw [spelled]
  refine fills_scalar Nat.toDigits_ne_nil ?_ (Scalar.read?_toDigits number)
  rw [List.all_eq_true]
  intro character member
  have digit := Scalar.isDigit_toDigits character member
  simp [isScalarCharacter, Char.isAlphanum, digit]

theorem fills_true : Fills ['t', 'r', 'u', 'e'] (.boolean true) :=
  fills_scalar (by decide) (by decide) rfl

theorem fills_false : Fills ['f', 'a', 'l', 's', 'e'] (.boolean false) :=
  fills_scalar (by decide) (by decide) rfl

theorem writeString_begins (text : String) :
    ∃ first more, (writeString text).toList = first :: more ∧ (first = '"' ∨ first = '\'') := by
  unfold writeString
  cases chosen : chooseQuotes (traits text.toList) <;> simp [chosen]

theorem fills_text (text : String) : Fills (writeString text).toList (.text text) := by
  obtain ⟨first, more, written, quote⟩ := writeString_begins text
  refine ⟨⟨first, more, written, by obtain rfl | rfl := quote <;> rfl⟩, fun fuel rest => ?_⟩
  have read := readString_writeString text rest
  have taken : (Toml.text <$> readString) (first :: more ++ '\n' :: rest) =
      some (.text text, '\n' :: rest) := by
    rw [← written]
    exact bind_of_eq read (fun text => pure (Toml.text text))
  rw [written] 
  rw [readValue]
  obtain rfl | rfl := quote
  · exact taken
  · exact taken

def IsBareKey (key : List Char) : Prop :=
  key ≠ [] ∧ key.all isKeyCharacter = true

instance (key : List Char) : Decidable (IsBareKey key) :=
  inferInstanceAs (Decidable (_ ∧ _))

theorem skipSpaces_apply (input : List Char) :
    skipSpaces input = some ((), input.dropWhile isSpace) :=
  rfl

theorem skipSpaces_visible {first : Char} (visible : isSpace first = false) (rest : List Char) :
    skipSpaces (first :: rest) = some ((), first :: rest) := by
  rw [skipSpaces_apply, List.dropWhile_cons_of_neg (by simp [visible])]

theorem visible_of_isKeyCharacter {character : Char} (part : isKeyCharacter character = true) :
    isSpace character = false ∧ character ≠ '"' ∧ character ≠ '\'' ∧ character ≠ '[' ∧
      character ≠ '#' ∧ character ≠ '\n' ∧ character ≠ '\r' := by
  refine ⟨?_, ?_, ?_, ?_, ?_, ?_, ?_⟩
  · rw [Bool.eq_false_iff]
    intro space
    simp only [isSpace, Bool.or_eq_true, beq_iff_eq] at space
    obtain rfl | rfl := space <;> contradiction
  all_goals
    rintro rfl
    contradiction

theorem IsBareKey.begins {key : List Char} (bare : IsBareKey key) :
    ∃ first more, key = first :: more ∧ isKeyCharacter first = true := by
  obtain ⟨given, parts⟩ := bare
  obtain ⟨first, more, rfl⟩ := List.exists_cons_of_ne_nil given
  exact ⟨first, more, rfl, List.all_eq_true.mp parts first List.mem_cons_self⟩

theorem choose_key {α : Type} {first : Char} (part : isKeyCharacter first = true)
    (double single bare : α) :
    (match some first with
      | some '"' => double
      | some '\'' => single
      | _ => bare) = bare := by
  have other := visible_of_isKeyCharacter part
  split <;> simp_all

theorem readKeyPart_bare {key rest : List Char} (bare : IsBareKey key)
    (stops : ∀ character ∈ rest.head?, isKeyCharacter character = false) :
    readKeyPart (key ++ rest) = some (String.ofList key, rest) := by
  have taken := takeWhile_append (List.all_eq_true.mp bare.2) stops
  obtain ⟨first, more, rfl, part⟩ := bare.begins
  have peeked : peek (first :: more ++ rest) = some (some first, first :: more ++ rest) := rfl
  rw [readKeyPart, bind_of_eq peeked]
  refine (congrFun (choose_key part _ _ _) _).trans ?_
  rw [bind_of_eq taken]
  rfl

theorem readKey_bare {key blanks : List Char} (bare : IsBareKey key)
    (blank : ∀ character ∈ blanks, isSpace character = true) {stop : Char}
    (stops : isKeyCharacter stop = false ∧ isSpace stop = false ∧ stop ≠ '.') (rest : List Char) :
    readKey (key ++ (blanks ++ stop :: rest)) = some ([String.ofList key], stop :: rest) := by
  have spaceStops {character : Char} (space : isSpace character = true) :
      isKeyCharacter character = false := by
    simp only [isSpace, Bool.or_eq_true, beq_iff_eq] at space
    obtain rfl | rfl := space <;> decide
  have next : ∀ character ∈ (blanks ++ stop :: rest).head?, isKeyCharacter character = false := by
    intro character head
    cases blanks with
    | nil =>
        cases head
        exact stops.1
    | cons first more =>
        cases head
        exact spaceStops (blank character List.mem_cons_self)
  have begins : skipSpaces (key ++ (blanks ++ stop :: rest)) =
      some ((), key ++ (blanks ++ stop :: rest)) := by
    obtain ⟨first, more, rfl, part⟩ := bare.begins
    exact skipSpaces_visible (visible_of_isKeyCharacter part).1 _
  have skipped : skipSpaces (blanks ++ stop :: rest) = some ((), stop :: rest) := by
    rw [skipSpaces_apply, List.dropWhile_append_of_pos blank]
    exact skipSpaces_visible stops.2.1 rest
  have single : take? "." (stop :: rest) = some (false, stop :: rest) :=
    take?_cons_other (rfl : ".".toList = '.' :: []) stops.2.2 rest
  rw [readKey, nestingLimit, readParts, bind_of_eq begins, bind_of_eq (readKeyPart_bare bare next),
    bind_of_eq skipped, bind_of_eq single]
  rfl

/-- What the lines of a document give. A blank line gives nothing. -/
inductive ReadsLine : List Char → Option Line → Prop
  | blank : ReadsLine ['\n'] none
  | entry {key characters : List Char} {value : Toml} (bare : IsBareKey key)
      (fills : Fills characters value) :
      ReadsLine (key ++ " = ".toList ++ characters ++ ['\n'])
        (some (.entry [String.ofList key] value))
  | header {key : List Char} (bare : IsBareKey key) :
      ReadsLine ('[' :: key ++ "]\n".toList) (some (.header [String.ofList key] false))

theorem readEntry_of_fills {key characters : List Char} {value : Toml} (bare : IsBareKey key)
    (fills : Fills characters value) (rest : List Char) :
    readEntry (key ++ ' ' :: '=' :: ' ' :: (characters ++ '\n' :: rest)) =
      some (.entry [String.ofList key] value, '\n' :: rest) := by
  have blank : ∀ character ∈ [' '], isSpace character = true := by simp [isSpace]
  have named : readKey (key ++ ' ' :: '=' :: ' ' :: (characters ++ '\n' :: rest)) =
      some ([String.ofList key], '=' :: ' ' :: (characters ++ '\n' :: rest)) :=
    readKey_bare bare blank (by decide) _
  have equals : expect "=" ('=' :: ' ' :: (characters ++ '\n' :: rest)) =
    some ((), ' ' :: (characters ++ '\n' :: rest)) := rfl
  have skipped : skipSpaces (' ' :: (characters ++ '\n' :: rest)) =
      some ((), characters ++ '\n' :: rest) := by
    obtain ⟨first, more, rfl, visible⟩ := fills.visible
    exact skipSpaces_visible visible _
  rw [readEntry, bind_of_eq named, bind_of_eq equals, bind_of_eq skipped, get_bind,
    bind_of_eq (fills.read _ rest)]
  rfl

theorem readHeader_bare {key : List Char} (bare : IsBareKey key) (rest : List Char) :
    readHeader false (key ++ ']' :: rest) =
      some (.header [String.ofList key] false, rest) := by
  have blank : ∀ character ∈ [], isSpace character = true := nofun
  have named : readKey (key ++ ']' :: rest) = some ([String.ofList key], ']' :: rest) :=
    readKey_bare bare blank (by decide) rest
  have closes : expect "]" (']' :: rest) = some ((), rest) := rfl
  rw [readHeader, bind_of_eq named, if_neg (by decide), bind_of_eq closes]
  rfl

theorem readLine_entry {key characters : List Char} {value : Toml} (bare : IsBareKey key)
    (fills : Fills characters value) (rest : List Char) :
    readLine (key ++ ' ' :: '=' :: ' ' :: (characters ++ '\n' :: rest)) =
      some (.entry [String.ofList key] value, '\n' :: rest) := by
  have entry := readEntry_of_fills bare fills rest
  obtain ⟨first, more, rfl, part⟩ := bare.begins
  obtain ⟨_, _, _, noBracket, _⟩ := visible_of_isKeyCharacter part
  rw [List.cons_append] at entry ⊢
  rw [readLine, bind_of_eq (take?_cons_other (rfl : "[[".toList = '[' :: ['[']) noBracket _),
    if_neg (by decide), bind_of_eq (take?_cons_other (rfl : "[".toList = '[' :: []) noBracket _),
    if_neg (by decide)]
  exact entry

theorem readLine_header {key : List Char} (bare : IsBareKey key) (rest : List Char) :
    readLine ('[' :: (key ++ ']' :: rest)) = some (.header [String.ofList key] false, rest) := by
  have header := readHeader_bare bare rest
  obtain ⟨first, more, rfl, part⟩ := bare.begins
  obtain ⟨_, _, _, noBracket, _⟩ := visible_of_isKeyCharacter part
  rw [List.cons_append] at header ⊢
  have noItem : take? "[[" ('[' :: first :: (more ++ ']' :: rest)) =
      some (false, '[' :: first :: (more ++ ']' :: rest)) := by
    apply take?_other
    simp [List.isPrefixOf, noBracket.symm]
  have opens : take? "[" ('[' :: first :: (more ++ ']' :: rest)) =
    some (true, first :: (more ++ ']' :: rest)) := take?_append "[" _
  rw [readLine, bind_of_eq noItem, if_neg (by decide), bind_of_eq opens, if_pos rfl]
  exact header

theorem finishLine_lineEnd (rest : List Char) : finishLine ('\n' :: rest) = some ((), rest) :=
  rfl

theorem readDocument_line {document : Document} {fuel : Nat} {first : Char} {more rest : List Char}
    {line : Line} (visible : isSpace first = false)
    (content : first ≠ '#' ∧ first ≠ '\n' ∧ first ≠ '\r')
    (read : readLine (first :: more) = some (line, '\n' :: rest)) :
    readDocument document (fuel + 1) (first :: more) =
      (document.add line).elim none fun document => readDocument document fuel rest := by
  obtain ⟨noComment, noLineFeed, noReturn⟩ := content
  have comment : startsWith "#" (first :: more) = some (false, first :: more) :=
    startsWith_cons_other (rfl : "#".toList = '#' :: []) noComment more
  have lineFeed : startsWith "\n" (first :: more) = some (false, first :: more) :=
    startsWith_cons_other (rfl : "\n".toList = '\n' :: []) noLineFeed more
  have lineEnd : startsWith "\r\n" (first :: more) = some (false, first :: more) :=
    startsWith_cons_other (rfl : "\r\n".toList = '\r' :: ['\n']) noReturn more
  rw [readDocument, bind_of_eq (skipSpaces_visible visible more), get_bind, if_neg (by simp),
    bind_of_eq comment, bind_of_eq lineFeed, bind_of_eq lineEnd, if_neg (by decide)]
  rw [bind_of_eq read, bind_of_eq (finishLine_lineEnd rest)]
  cases document.add line <;> rfl

end Reader

def Document.addAll (document : Document) : List (Option Line) → Option Document
  | [] => some document
  | none :: rest => document.addAll rest
  | some line :: rest => (document.add line).bind fun document => document.addAll rest

namespace Reader

theorem readDocument_lines {texts : List (List Char)} {lines : List (Option Line)}
    (reads : List.Forall₂ ReadsLine texts lines) {document final : Document}
    (added : document.addAll lines = some final) {fuel : Nat} (enough : texts.length < fuel) :
    readDocument document fuel texts.flatten = some (final, []) := by
  induction reads generalizing document fuel with
  | nil =>
      obtain _ | fuel := fuel
      · contradiction
      · cases added
        rfl
  | @cons text line texts lines head rest ih =>
      obtain _ | fuel := fuel
      · contradiction
      have less : texts.length < fuel := by simpa using enough
      rw [List.flatten_cons]
      cases head with
      | blank => exact ih added less
      | @entry key characters value bare fills =>
          have line := readLine_entry bare fills texts.flatten
          have written : key ++ " = ".toList ++ characters ++ ['\n'] ++ texts.flatten =
            key ++ ' ' :: '=' :: ' ' :: (characters ++ '\n' :: texts.flatten) := by simp
          rw [written]
          obtain ⟨first, more, rfl, part⟩ := bare.begins
          obtain ⟨visible, _, _, _, content⟩ := visible_of_isKeyCharacter part
          rw [List.cons_append] at line ⊢
          rw [readDocument_line visible content line]
          obtain ⟨next, step, onward⟩ := Option.bind_eq_some_iff.mp added
          rw [step]
          exact ih onward less
      | @header key bare =>
          have line := readLine_header bare ('\n' :: texts.flatten)
          have written : '[' :: key ++ "]\n".toList ++ texts.flatten =
            '[' :: (key ++ ']' :: '\n' :: texts.flatten) := by simp
          rw [written, readDocument_line (by decide) (by decide) line]
          obtain ⟨next, step, onward⟩ := Option.bind_eq_some_iff.mp added
          rw [step]
          exact ih onward less

end Reader

end ScriptedShell.Toml
