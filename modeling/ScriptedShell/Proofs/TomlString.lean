import ScriptedShell.Toml.Reader
import ScriptedShell.Toml.Writer

/-!
Strings in TOML. Whatever quotes the writer chooses, the reader finds the text between them: `readString`
takes back what `writeString` writes, and stops behind it.
-/

namespace ScriptedShell.Toml

namespace Reader

section

variable {α β : Type} {input rest : List Char}

theorem get_bind (next : List Char → Reader β) : (get >>= next : Reader β) input = next input input :=
  rfl

theorem bind_of_eq {reader : Reader α} {value : α} (read : reader input = some (value, rest))
    (next : α → Reader β) : (reader >>= next) input = next value rest := by
  change (reader input).bind _ = _
  rw [read]
  rfl

theorem startsWith_apply (text : String) (input : List Char) :
    startsWith text input = some (text.toList.isPrefixOf input, input) :=
  rfl

theorem take?_append (text : String) (rest : List Char) :
    take? text (text.toList ++ rest) = some (true, rest) := by
  have starts : text.toList.isPrefixOf (text.toList ++ rest) = true := by
    rw [List.isPrefixOf_iff_prefix]
    exact List.prefix_append _ _
  have dropped : (text.toList ++ rest).drop text.length = rest := by
    rw [← String.length_toList, List.drop_left]
  rw [take?, bind_of_eq (startsWith_apply text _), starts]
  exact congrArg (fun rest => some (true, rest)) dropped

theorem take?_other {text : String} (other : text.toList.isPrefixOf input = false) :
    take? text input = some (false, input) := by
  rw [take?, bind_of_eq (startsWith_apply text _), other]
  rfl

theorem startsWith_cons_other {text : String} {mark first : Char} {marks : List Char}
    (begins : text.toList = mark :: marks) (other : first ≠ mark) (rest : List Char) :
    startsWith text (first :: rest) = some (false, first :: rest) := by
  rw [startsWith_apply, begins]
  simp [List.isPrefixOf, other.symm]

theorem take?_cons_other {text : String} {mark first : Char} {marks : List Char}
    (begins : text.toList = mark :: marks) (other : first ≠ mark) (rest : List Char) :
    take? text (first :: rest) = some (false, first :: rest) := by
  rw [take?, bind_of_eq (startsWith_cons_other begins other rest)]
  rfl

theorem takeWhile_append {accept : Char → Bool} {accepted : List Char}
    (all : ∀ character ∈ accepted, accept character = true)
    (stops : ∀ character ∈ rest.head?, accept character = false) :
    takeWhile accept (accepted ++ rest) = some (accepted, rest) := by
  have none : rest.takeWhile accept = [] ∧ rest.dropWhile accept = rest := by
    cases rest with
    | nil => exact ⟨rfl, rfl⟩
    | cons first rest => simp [stops first rfl]
  change some ((accepted ++ rest).takeWhile accept, (accepted ++ rest).dropWhile accept) = _
  rw [List.takeWhile_append_of_pos all, List.dropWhile_append_of_pos all, none.1, none.2,
    List.append_nil]

end

/-- Between double quotes, the characters on the left stand for the one on the right. -/
inductive Spells : List Char → Char → Prop
  | itself {character : Char} (printable : isPrintable character = true)
      (noQuote : character ≠ '"') (noBackslash : character ≠ '\\') : Spells [character] character
  | escape {mark character : Char} {more : List Char} (visible : isSpaceOrLineEnd mark = false)
      (noReturn : mark ≠ '\r')
      (escaped : ∀ rest, readEscape (mark :: (more ++ rest)) = some (character, rest)) :
      Spells ('\\' :: mark :: more) character

theorem digitValue?_hexDigit {value : Nat} (small : value < 16) :
    Scalar.digitValue? 16 (hexDigit value) = some value := by
  revert value
  decide

theorem readEscape_code {code : Nat} (small : code < 128) (rest : List Char) :
    readEscape ('u' :: '0' :: '0' :: hexDigit (code / 16) :: hexDigit (code % 16) :: rest) =
      some (Char.ofNat code, rest) := by
  have high : Scalar.digitValue? 16 (hexDigit (code / 16)) = some (code / 16) :=
    digitValue?_hexDigit (by omega)
  have low : Scalar.digitValue? 16 (hexDigit (code % 16)) = some (code % 16) :=
    digitValue?_hexDigit (Nat.mod_lt _ (by decide))
  have zero : Scalar.digitValue? 16 '0' = some 0 := by decide
  have digits : ['0', '0', hexDigit (code / 16), hexDigit (code % 16)].mapM (Scalar.digitValue? 16) =
      some [0, 0, code / 16, code % 16] := by
    simp [zero, high, low]
  have value : Scalar.valueOf 16 [0, 0, code / 16, code % 16] = code := by
    simp only [Scalar.valueOf, List.foldl_cons, List.foldl_nil]
    omega
  have valid : code.isValidChar := by
    left
    omega
  change readHex 4 ('0' :: '0' :: hexDigit (code / 16) :: hexDigit (code % 16) :: rest) = _
  rw [readHex, get_bind]
  simp only [List.take_succ_cons, List.take_zero, List.length_cons, List.length_nil, if_true, digits,
    value, valid]
  rfl

theorem isControl_lt {character : Char} (control : isControl character = true) :
    character.toNat < 128 := by
  simp only [isControl, Bool.or_eq_true, Bool.and_eq_true, decide_eq_true_eq, beq_iff_eq] at control
  omega

theorem isPrintable_of_not_control {character : Char} (plain : isControl character = false)
    (noLineEnd : character ≠ '\n') : isPrintable character = true := by
  simp only [isControl, isPrintable] at *
  grind

theorem spells_codeEscape {character : Char} (control : isControl character = true) :
    Spells (codeEscape character).toList character := by
  have written : (codeEscape character).toList = '\\' :: 'u' :: ['0', '0',
      hexDigit (character.toNat / 16), hexDigit (character.toNat % 16)] := by
    simp [codeEscape]
  rw [written]
  refine .escape (by decide) (by decide) fun rest => ?_
  have read := readEscape_code (isControl_lt control) rest
  rwa [Char.ofNat_toNat] at read

theorem spells_mark {mark character : Char} (visible : isSpaceOrLineEnd mark = false)
    (noReturn : mark ≠ '\r')
    (escaped : ∀ rest, readEscape (mark :: rest) = some (character, rest)) :
    Spells ['\\', mark] character :=
  .escape visible noReturn escaped

theorem spells_writeChar {character : Char} (noQuote : character ≠ '"')
    (noLineEnd : character ≠ '\n') : Spells (writeChar character).toList character := by
  unfold writeChar
  split
  · exact spells_mark (by decide) (by decide) fun _ => rfl
  · exact spells_mark (by decide) (by decide) fun _ => rfl
  · exact spells_mark (by decide) (by decide) fun _ => rfl
  · exact spells_mark (by decide) (by decide) fun _ => rfl
  · exact spells_mark (by decide) (by decide) fun _ => rfl
  · rename_i noBackslash
    split
    · exact spells_codeEscape ‹_›
    · rename_i plain
      rw [Char.toString_eq_singleton, String.toList_singleton]
      exact .itself (isPrintable_of_not_control (by simpa using plain) noLineEnd) noQuote noBackslash

theorem writeLine_cons (character : Char) (rest : List Char) :
    ∃ spelling, Spells spelling character ∧
      (writeLine (character :: rest)).toList = spelling ++ (writeLine rest).toList := by
  by_cases quote : character = '"'
  · subst quote
    refine ⟨['\\', '"'], spells_mark (by decide) (by decide) fun _ => rfl, ?_⟩
    rw [writeLine, String.toList_append]
    rfl
  by_cases lineEnd : character = '\n'
  · subst lineEnd
    refine ⟨['\\', 'n'], spells_mark (by decide) (by decide) fun _ => rfl, ?_⟩
    rw [writeLine, String.toList_append]
    rfl
  · refine ⟨(writeChar character).toList, spells_writeChar quote lineEnd, ?_⟩
    rw [← String.toList_append]
    congr 1
    rw [writeLine]
    · exact quote
    · exact lineEnd

section

variable {read rest spelling : List Char} {fuel : Nat} {character : Char}

theorem readBasic_plain (printable : isPrintable character = true) (noQuote : character ≠ '"')
    (noBackslash : character ≠ '\\') :
    readBasic read (fuel + 1) (character :: rest) = readBasic (character :: read) fuel rest := by
  change (if character = '"' then _ else if character = '\\' then _ else
    if isPrintable character then _ else _ : Reader String) rest = _
  rw [if_neg noQuote, if_neg noBackslash, if_pos printable]

theorem readBasic_spelled (spells : Spells spelling character) :
    readBasic read (fuel + 1) (spelling ++ rest) = readBasic (character :: read) fuel rest := by
  cases spells with
  | itself printable noQuote noBackslash => exact readBasic_plain printable noQuote noBackslash
  | escape visible noReturn escaped =>
      exact bind_of_eq (escaped rest) fun character => readBasic (character :: read) fuel

end

theorem readBasic_writeLine (characters read rest : List Char) {fuel : Nat}
    (enough : characters.length < fuel) :
    readBasic read fuel ((writeLine characters).toList ++ '"' :: rest) =
      some (String.ofList (read.reverse ++ characters), rest) := by
  induction characters generalizing read fuel with
  | nil =>
      obtain _ | fuel := fuel
      · contradiction
      · rw [List.append_nil]
        rfl
  | cons character characters ih =>
      obtain _ | fuel := fuel
      · contradiction
      · obtain ⟨spelling, spells, written⟩ := writeLine_cons character characters
        rw [written, List.append_assoc, readBasic_spelled spells, ih _ (by simpa using enough)]
        simp

section

variable {quote character : Char} {read rest spelling : List Char} {fuel : Nat}

theorem readLines_close {characters : List Char} {count : Nat}
    (closing : closingQuotes? quote characters = some count) :
    readLines quote read (fuel + 1) characters =
      some (String.ofList (read.reverse ++ List.replicate (count - 3) quote),
        characters.drop count) := by
  rw [readLines, get_bind, closing]
  rfl

theorem readLines_plain (goesOn : closingQuotes? quote (character :: rest) = none)
    (plain : isPrintable character = true ∨ character = '\n') (noReturn : character ≠ '\r')
    (raw : character = '\\' → quote ≠ '"') :
    readLines quote read (fuel + 1) (character :: rest) =
      readLines quote (character :: read) fuel rest := by
  have kept : (isPrintable character || character == '\n') = true := by simpa using plain
  have unescaped : ¬ (character = '\\' ∧ quote = '"') := fun both => raw both.1 both.2
  rw [readLines, get_bind, goesOn]
  split
  · contradiction
  · rename_i same
    exact absurd (List.cons.inj same).1 noReturn
  · rename_i same
    obtain ⟨rfl, rfl⟩ := List.cons.inj same
    change (if character = '\\' ∧ quote = '"' then _ else if _ then _ else _ : Reader String) rest = _
    rw [if_neg unescaped, if_pos kept]

theorem joinsLines_mark {mark : Char} (visible : isSpaceOrLineEnd mark = false)
    (noReturn : mark ≠ '\r') (rest : List Char) : joinsLines (mark :: rest) = false := by
  simp only [isSpaceOrLineEnd, Bool.or_eq_false_iff, beq_eq_false_iff_ne] at visible
  unfold joinsLines
  rw [List.dropWhile_cons_of_neg (by simp [visible.1])]
  split
  · rename_i same
    exact absurd (List.cons.inj same).1 visible.2
  · rename_i same
    exact absurd (List.cons.inj same).1 noReturn
  · rfl

theorem readLines_spelled (spells : Spells spelling character)
    (goesOn : closingQuotes? '"' (spelling ++ rest) = none) :
    readLines '"' read (fuel + 1) (spelling ++ rest) =
      readLines '"' (character :: read) fuel rest := by
  cases spells with
  | itself printable noQuote noBackslash =>
      refine readLines_plain goesOn (.inl printable) ?_ fun backslash => absurd backslash noBackslash
      rintro rfl
      contradiction
  | @escape mark _ more visible noReturn escaped =>
      rw [List.cons_append] at goesOn ⊢
      rw [readLines, get_bind, goesOn]
      have single := joinsLines_mark visible noReturn (more ++ rest)
      change (if joinsLines (mark :: (more ++ rest)) then _ else
        readEscape >>= fun character => readLines '"' (character :: read) fuel : Reader String)
          (mark :: (more ++ rest)) = _
      rw [single]
      exact bind_of_eq (escaped rest) fun character => readLines '"' (character :: read) fuel

end

def leadingQuotes (quote : Char) (characters : List Char) : Nat :=
  (characters.takeWhile (· == quote)).length

theorem closingQuotes?_none {quote : Char} {characters : List Char}
    (few : leadingQuotes quote characters ≤ 2) : closingQuotes? quote characters = none := by
  rw [leadingQuotes] at few
  exact if_neg (by omega)

theorem leadingQuotes_cons_self (quote : Char) (rest : List Char) :
    leadingQuotes quote (quote :: rest) = leadingQuotes quote rest + 1 := by
  simp [leadingQuotes]

theorem leadingQuotes_cons_other {quote character : Char} (other : character ≠ quote)
    (rest : List Char) : leadingQuotes quote (character :: rest) = 0 := by
  simp [leadingQuotes, other]

theorem leadingQuotes_lone {quote : Char} (other : '\n' ≠ quote) (rest : List Char) :
    leadingQuotes quote (quote :: '\n' :: rest) = 1 := by
  rw [leadingQuotes_cons_self, leadingQuotes_cons_other other]

theorem leadingQuotes_replicate (quote : Char) (count : Nat) (rest : List Char) :
    leadingQuotes quote (List.replicate count quote ++ rest) = count + leadingQuotes quote rest := by
  induction count with
  | zero => simp
  | succ count ih =>
      rw [List.replicate_succ, List.cons_append, leadingQuotes_cons_self, ih]
      omega

theorem readLines_end {quote : Char} {count : Nat} (few : count ≤ 2) (other : '\n' ≠ quote)
    (read rest : List Char) (fuel : Nat) :
    readLines quote read (fuel + 1)
        (List.replicate count quote ++ quote :: quote :: quote :: '\n' :: rest) =
      some (String.ofList (read.reverse ++ List.replicate count quote), '\n' :: rest) := by
  have joined : List.replicate count quote ++ quote :: quote :: quote :: '\n' :: rest =
      List.replicate (count + 3) quote ++ '\n' :: rest := by
    simp [List.replicate_succ', List.append_assoc]
  have closing : closingQuotes? quote (List.replicate (count + 3) quote ++ '\n' :: rest) =
      some (count + 3) := by
    have length := leadingQuotes_replicate quote (count + 3) ('\n' :: rest)
    rw [leadingQuotes_cons_other other, leadingQuotes] at length
    rw [closingQuotes?, length]
    simp only [Nat.add_zero]
    rw [if_pos (by omega), Nat.min_eq_left (by omega)]
  rw [joined, readLines_close closing, List.drop_left' (by simp)]
  rfl

theorem Spells.leadingQuotes {spelling : List Char} {character : Char}
    (spells : Spells spelling character) (rest : List Char) :
    leadingQuotes '"' (spelling ++ rest) = 0 := by
  cases spells with
  | itself _ noQuote _ => exact leadingQuotes_cons_other noQuote rest
  | escape => exact leadingQuotes_cons_other (by decide) _

theorem writeLines_cons (quotes : Nat) (character : Char) (rest : List Char) :
    (character = '"' ∧ quotes ≠ 2 ∧
        (writeLines quotes (character :: rest)).toList = '"' :: (writeLines (quotes + 1) rest).toList) ∨
      (character = '\n' ∧
        (writeLines quotes (character :: rest)).toList = '\n' :: (writeLines 0 rest).toList) ∨
      ∃ spelling, Spells spelling character ∧
        (writeLines quotes (character :: rest)).toList = spelling ++ (writeLines 0 rest).toList := by
  by_cases quote : character = '"'
  · subst quote
    by_cases third : quotes = 2
    · refine .inr (.inr ⟨['\\', '"'], spells_mark (by decide) (by decide) fun _ => rfl, ?_⟩)
      rw [writeLines, if_pos third, String.toList_append]
      rfl
    · refine .inl ⟨rfl, third, ?_⟩
      rw [writeLines, if_neg third, String.toList_append]
      rfl
  by_cases lineEnd : character = '\n'
  · subst lineEnd
    refine .inr (.inl ⟨rfl, ?_⟩)
    rw [writeLines, String.toList_append]
    rfl
  · refine .inr (.inr ⟨(writeChar character).toList, spells_writeChar quote lineEnd, ?_⟩)
    rw [← String.toList_append]
    congr 1
    rw [writeLines]
    · exact quote
    · exact lineEnd

theorem leadingQuotes_writeLines {quotes : Nat} (few : quotes ≤ 2) (characters rest : List Char) :
    (∃ count, count + quotes ≤ 2 ∧ characters = List.replicate count '"') ∨
      leadingQuotes '"' ((writeLines quotes characters).toList ++ rest) + quotes ≤ 2 := by
  -- The quotes before the text count, since the writer puts an escape in place of every third one.
  induction characters generalizing quotes with
  | nil => exact .inl ⟨0, by omega, rfl⟩
  | cons character characters ih =>
      obtain ⟨rfl, raw, written⟩ | ⟨rfl, written⟩ | ⟨spelling, spells, written⟩ :=
        writeLines_cons quotes character characters
      · rw [written, List.cons_append, leadingQuotes_cons_self]
        obtain ⟨count, short, rfl⟩ | short := ih (by omega : quotes + 1 ≤ 2)
        · exact .inl ⟨count + 1, by omega, rfl⟩
        · exact .inr (by omega)
      · rw [written, List.cons_append, leadingQuotes_cons_other (by decide)]
        exact .inr (by omega)
      · rw [written, List.append_assoc, spells.leadingQuotes]
        exact .inr (by omega)

theorem writeLines_replicate (quotes count : Nat) (few : count + quotes ≤ 2) :
    (writeLines quotes (List.replicate count '"')).toList = List.replicate count '"' := by
  induction count generalizing quotes with
  | zero => rfl
  | succ count ih =>
      rw [List.replicate_succ, writeLines, if_neg (by omega), String.toList_append,
        ih (quotes + 1) (by omega)]
      rfl

theorem readLines_writeLines {quotes : Nat} (few : quotes ≤ 2) (characters read rest : List Char)
    {fuel : Nat} (enough : characters.length < fuel) :
    readLines '"' read fuel
        ((writeLines quotes characters).toList ++ '"' :: '"' :: '"' :: '\n' :: rest) =
      some (String.ofList (read.reverse ++ characters), '\n' :: rest) := by
  induction characters generalizing quotes read fuel with
  | nil =>
      obtain _ | fuel := fuel
      · contradiction
      · exact readLines_end (Nat.zero_le 2) (by decide) read rest fuel
  | cons character characters ih =>
      obtain _ | fuel := fuel
      · contradiction
      have less : characters.length < fuel := by simpa using enough
      obtain ⟨count, short, same⟩ | few' := leadingQuotes_writeLines few (character :: characters)
        ('"' :: '"' :: '"' :: '\n' :: rest)
      · rw [same, writeLines_replicate quotes count short]
        exact readLines_end (by omega) (by decide) read rest fuel
      have goesOn := closingQuotes?_none (Nat.le_of_add_right_le few')
      have joined : (character :: read).reverse ++ characters =
          read.reverse ++ character :: characters := by simp
      rw [← joined]
      obtain ⟨rfl, raw, written⟩ | ⟨rfl, written⟩ | ⟨spelling, spells, written⟩ :=
        writeLines_cons quotes character characters
      · rw [written, List.cons_append] at goesOn ⊢
        rw [readLines_plain goesOn (.inl (by decide)) (by decide) (by decide)]
        exact ih (by omega) _ less
      · rw [written, List.cons_append] at goesOn ⊢
        rw [readLines_plain goesOn (.inr rfl) (by decide) (by decide)]
        exact ih (by omega) _ less
      · rw [written, List.append_assoc] at goesOn ⊢
        rw [readLines_spelled spells goesOn]
        exact ih (by omega) _ less

/-- What `longestRun` counts: the quotes that stand last and the most that stand together. -/
def runsFrom (mark : Char) (runs : Nat × Nat) (characters : List Char) : Nat × Nat :=
  characters.foldl
    (fun (current, longest) character =>
      if character = mark then (current + 1, max longest (current + 1)) else (0, longest)) runs

theorem longestRun_eq (mark : Char) (characters : List Char) :
    longestRun mark characters = (runsFrom mark (0, 0) characters).2 :=
  rfl

theorem runsFrom_cons_self (mark : Char) (current longest : Nat) (rest : List Char) :
    runsFrom mark (current, longest) (mark :: rest) =
      runsFrom mark (current + 1, max longest (current + 1)) rest := by
  simp [runsFrom]

theorem runsFrom_cons_other {mark character : Char} (other : character ≠ mark)
    (current longest : Nat) (rest : List Char) :
    runsFrom mark (current, longest) (character :: rest) = runsFrom mark (0, longest) rest := by
  simp [runsFrom, other]

theorem le_runsFrom (mark : Char) (current longest : Nat) (characters : List Char) :
    longest ≤ (runsFrom mark (current, longest) characters).2 := by
  induction characters generalizing current longest with
  | nil => exact Nat.le_refl _
  | cons character rest ih =>
      by_cases same : character = mark
      · subst same
        rw [runsFrom_cons_self]
        exact Nat.le_trans (Nat.le_max_left _ _) (ih _ _)
      · rw [runsFrom_cons_other same]
        exact ih _ _

theorem not_mem_of_longestRun {mark : Char} {characters : List Char}
    (none : longestRun mark characters = 0) : mark ∉ characters := by
  have counted (current longest : Nat) (member : mark ∈ characters) :
      1 ≤ (runsFrom mark (current, longest) characters).2 := by
    clear none
    induction characters generalizing current longest with
    | nil => contradiction
    | cons character rest ih =>
        by_cases same : character = mark
        · subst same
          rw [runsFrom_cons_self]
          have within := le_runsFrom character (current + 1) (max longest (current + 1)) rest
          omega
        · rw [runsFrom_cons_other same]
          exact ih 0 longest (List.mem_of_ne_of_mem (Ne.symm same) member)
  intro member
  have some := counted 0 0 member
  rw [← longestRun_eq] at some
  omega

theorem leadingQuotes_of_runsFrom {quote : Char} {current longest : Nat} (few : current ≤ 2)
    (characters rest : List Char) (short : (runsFrom quote (current, longest) characters).2 ≤ 2) :
    (∃ count, count + current ≤ 2 ∧ characters = List.replicate count quote) ∨
      leadingQuotes quote (characters ++ rest) + current ≤ 2 := by
  induction characters generalizing current longest with
  | nil => exact .inl ⟨0, by omega, rfl⟩
  | cons character characters ih =>
      by_cases same : character = quote
      · subst same
        rw [runsFrom_cons_self] at short
        have within := le_runsFrom character (current + 1) (max longest (current + 1)) characters
        rw [List.cons_append, leadingQuotes_cons_self]
        obtain ⟨count, few, rfl⟩ | few := ih (by omega) short
        · exact .inl ⟨count + 1, by omega, rfl⟩
        · exact .inr (by omega)
      · rw [List.cons_append, leadingQuotes_cons_other same]
        exact .inr (by omega)

theorem readLines_raw {quote : Char} {current longest : Nat} (single : quote ≠ '"')
    (other : '\n' ≠ quote) (few : current ≤ 2) (characters read rest : List Char)
    (plain : ∀ character ∈ characters, isPrintable character = true ∨ character = '\n')
    (short : (runsFrom quote (current, longest) characters).2 ≤ 2) {fuel : Nat}
    (enough : characters.length < fuel) :
    readLines quote read fuel (characters ++ quote :: quote :: quote :: '\n' :: rest) =
      some (String.ofList (read.reverse ++ characters), '\n' :: rest) := by
  induction characters generalizing current longest read fuel with
  | nil =>
      obtain _ | fuel := fuel
      · exact absurd enough (Nat.not_lt_zero _)
      · exact readLines_end (Nat.zero_le 2) other read rest fuel
  | cons character characters ih =>
      obtain _ | fuel := fuel
      · contradiction
      have less : characters.length < fuel := by simpa using enough
      obtain ⟨count, few, same⟩ | few' := leadingQuotes_of_runsFrom few (character :: characters)
        (quote :: quote :: quote :: '\n' :: rest) short
      · rw [same]
        exact readLines_end (by omega) other read rest fuel
      have goesOn := closingQuotes?_none (Nat.le_of_add_right_le few')
      have joined : (character :: read).reverse ++ characters =
          read.reverse ++ character :: characters := by simp
      rw [← joined]
      have kept := plain character List.mem_cons_self
      have noReturn : character ≠ '\r' := by
        rintro rfl
        revert kept
        decide
      rw [List.cons_append] at goesOn ⊢
      rw [readLines_plain goesOn kept noReturn fun _ => single]
      have plainRest := fun next member => plain next (List.mem_cons_of_mem character member)
      by_cases same : character = quote
      · subst same
        rw [runsFrom_cons_self] at short
        have within := le_runsFrom character (current + 1) (max longest (current + 1)) characters
        exact ih (by omega) _ plainRest short less
      · rw [runsFrom_cons_other same] at short
        exact ih (by omega) _ plainRest short less

theorem take?_three_none (quote : Char) {text : String}
    (three : text.toList = [quote, quote, quote]) {input : List Char}
    (few : leadingQuotes quote input ≤ 2) : take? text input = some (false, input) := by
  apply take?_other
  rw [three, Bool.eq_false_iff]
  intro starts
  obtain ⟨rest, rfl⟩ := List.isPrefixOf_iff_prefix.mp starts
  have many := leadingQuotes_replicate quote 3 rest
  rw [show List.replicate 3 quote = [quote, quote, quote] from rfl] at many
  omega

theorem leadingQuotes_writeLine (characters rest : List Char) :
    leadingQuotes '"' ((writeLine characters).toList ++ '"' :: '\n' :: rest) ≤ 1 := by
  cases characters with
  | nil =>
      exact Nat.le_of_eq (leadingQuotes_lone (by decide) rest)
  | cons character characters =>
      obtain ⟨spelling, spells, written⟩ := writeLine_cons character characters
      rw [written, List.append_assoc, spells.leadingQuotes]
      exact Nat.zero_le 1

theorem length_le_writeLine (characters : List Char) :
    characters.length ≤ (writeLine characters).toList.length := by
  induction characters with
  | nil => exact Nat.zero_le _
  | cons character characters ih =>
      obtain ⟨spelling, spells, written⟩ := writeLine_cons character characters
      rw [written, List.length_append, List.length_cons]
      cases spells <;> simp only [List.length_cons] <;> omega

theorem length_le_writeLines (quotes : Nat) (characters : List Char) :
    characters.length ≤ (writeLines quotes characters).toList.length := by
  induction characters generalizing quotes with
  | nil => exact Nat.zero_le _
  | cons character characters ih =>
      have raw := ih (quotes + 1)
      have fresh := ih 0
      obtain ⟨_, _, written⟩ | ⟨_, written⟩ | ⟨spelling, spells, written⟩ :=
        writeLines_cons quotes character characters
      · simp only [written, List.length_cons]
        omega
      · simp only [written, List.length_cons]
        omega
      · rw [written, List.length_append, List.length_cons]
        cases spells <;> simp only [List.length_cons] <;> omega

theorem readString_double (characters rest : List Char) :
    readString ('"' :: ((writeLine characters).toList ++ '"' :: '\n' :: rest)) =
      some (String.ofList characters, '\n' :: rest) := by
  let body := (writeLine characters).toList ++ '"' :: '\n' :: rest
  have few : leadingQuotes '"' ('"' :: body) ≤ 2 := by
    rw [leadingQuotes_cons_self]
    exact Nat.succ_le_succ (leadingQuotes_writeLine characters rest)
  have noDouble : take? "\"\"\"" ('"' :: body) = some (false, '"' :: body) :=
    take?_three_none '"' rfl few
  have noSingle : take? "'''" ('"' :: body) = some (false, '"' :: body) := take?_other rfl
  have opens : take? "\"" ('"' :: body) = some (true, body) := take?_append "\"" body
  have enough : characters.length < body.length + 1 := by
    have long := length_le_writeLine characters
    simp only [body, List.length_append]
    omega
  rw [readString, bind_of_eq noDouble, if_neg (by decide), bind_of_eq noSingle, if_neg (by decide),
    bind_of_eq opens, if_pos rfl, get_bind]
  exact readBasic_writeLine characters [] ('\n' :: rest) enough

theorem readString_single {characters : List Char}
    (plain : ∀ character ∈ characters, isPrintable character = true ∧ character ≠ '\'')
    (rest : List Char) :
    readString ('\'' :: (characters ++ '\'' :: '\n' :: rest)) =
      some (String.ofList characters, '\n' :: rest) := by
  let body := characters ++ '\'' :: '\n' :: rest
  have few : leadingQuotes '\'' ('\'' :: body) ≤ 2 := by
    rw [leadingQuotes_cons_self]
    cases characters with
    | nil =>
        exact Nat.succ_le_succ (Nat.le_of_eq (leadingQuotes_lone (by decide) rest))
    | cons first characters =>
        have other := (plain first List.mem_cons_self).2
        simp only [body, List.cons_append, leadingQuotes_cons_other other]
        decide
  have noDouble : take? "\"\"\"" ('\'' :: body) = some (false, '\'' :: body) := take?_other rfl
  have noSingle : take? "'''" ('\'' :: body) = some (false, '\'' :: body) :=
    take?_three_none '\'' rfl few
  have noBasic : take? "\"" ('\'' :: body) = some (false, '\'' :: body) := take?_other rfl
  have opens : take? "'" ('\'' :: body) = some (true, body) := take?_append "'" body
  have content : takeWhile (fun character => isPrintable character && character != '\'') body =
      some (characters, '\'' :: '\n' :: rest) := by
    apply takeWhile_append
    · intro character member
      simpa using plain character member
    · intro character first
      cases first
      rfl
  have closes : expect "'" ('\'' :: '\n' :: rest) = some ((), '\n' :: rest) := rfl
  rw [readString, bind_of_eq noDouble, if_neg (by decide), bind_of_eq noSingle, if_neg (by decide),
    bind_of_eq noBasic, if_neg (by decide), bind_of_eq opens, if_pos rfl, readLiteral,
    bind_of_eq content, bind_of_eq closes]
  rfl

theorem readManyLines_apply {quote : Char} {opening body : List Char}
    (opens : opening = ['\n'] ∨ opening = [] ∧ ∀ first ∈ body.head?, first ≠ '\n' ∧ first ≠ '\r') :
    readManyLines quote (opening ++ body) = readLines quote [] (body.length + 1) body := by
  obtain rfl | ⟨rfl, first⟩ := opens
  · rfl
  · have noLineEnd : takeLineEnd? body = some (false, body) := by
      cases body with
      | nil => rfl
      | cons character rest =>
          obtain ⟨noLineFeed, noReturn⟩ := first character rfl
          have noFeed : "\n".toList = '\n' :: [] := rfl
          have noPair : "\r\n".toList = '\r' :: ['\n'] := rfl
          rw [takeLineEnd?, bind_of_eq (take?_cons_other noFeed noLineFeed rest), if_neg (by decide)]
          exact take?_cons_other noPair noReturn rest
    rw [readManyLines, List.nil_append, bind_of_eq noLineEnd, get_bind]

theorem noLineEnd_of_isPrintable {character : Char} (printable : isPrintable character = true) :
    character ≠ '\n' ∧ character ≠ '\r' := by
  constructor <;> rintro rfl <;> contradiction

theorem Spells.noLineEnd {spelling rest : List Char} {character : Char}
    (spells : Spells spelling character) :
    ∀ first ∈ (spelling ++ rest).head?, first ≠ '\n' ∧ first ≠ '\r' := by
  intro first head
  cases spells with
  | itself printable _ _ =>
      cases head
      exact noLineEnd_of_isPrintable printable
  | escape =>
      cases head
      decide

theorem writeLines_noLineEnd {characters : List Char} (noLineEnd : '\n' ∉ characters)
    (rest : List Char) :
    ∀ first ∈ ((writeLines 0 characters).toList ++ '"' :: rest).head?, first ≠ '\n' ∧ first ≠ '\r' := by
  intro first head
  cases characters with
  | nil =>
      cases head
      decide
  | cons character characters =>
      obtain ⟨rfl, raw, written⟩ | ⟨rfl, written⟩ | ⟨spelling, spells, written⟩ :=
        writeLines_cons 0 character characters
      · rw [written] at head
        cases head
        decide
      · exact absurd List.mem_cons_self noLineEnd
      · rw [written, List.append_assoc] at head
        exact spells.noLineEnd first head

theorem readString_tripleDouble {opening : List Char} (characters rest : List Char)
    (opens : opening = ['\n'] ∨ opening = [] ∧ '\n' ∉ characters) :
    readString ('"' :: '"' :: '"' :: (opening ++ ((writeLines 0 characters).toList ++
        '"' :: '"' :: '"' :: '\n' :: rest))) =
      some (String.ofList characters, '\n' :: rest) := by
  let body := (writeLines 0 characters).toList ++ '"' :: '"' :: '"' :: '\n' :: rest
  have three : take? "\"\"\"" ('"' :: '"' :: '"' :: (opening ++ body)) = some (true, opening ++ body) :=
    take?_append "\"\"\"" (opening ++ body)
  have begins : opening = ['\n'] ∨ opening = [] ∧
      ∀ first ∈ body.head?, first ≠ '\n' ∧ first ≠ '\r' := by
    exact opens.imp_right fun ⟨empty, noLineEnd⟩ => ⟨empty, writeLines_noLineEnd noLineEnd _⟩
  have enough : characters.length < body.length + 1 := by
    have long := length_le_writeLines 0 characters
    simp only [body, List.length_append]
    omega
  rw [readString, bind_of_eq three, if_pos rfl, readManyLines_apply begins]
  exact readLines_writeLines (Nat.zero_le 2) characters [] rest enough

theorem readString_tripleSingle {opening : List Char} {characters : List Char}
    (plain : ∀ character ∈ characters, isPrintable character = true ∨ character = '\n')
    (short : longestRun '\'' characters ≤ 2) (rest : List Char)
    (opens : opening = ['\n'] ∨ opening = [] ∧ '\n' ∉ characters) :
    readString ('\'' :: '\'' :: '\'' :: (opening ++ (characters ++
        '\'' :: '\'' :: '\'' :: '\n' :: rest))) =
      some (String.ofList characters, '\n' :: rest) := by
  let body := characters ++ '\'' :: '\'' :: '\'' :: '\n' :: rest
  let input := '\'' :: '\'' :: '\'' :: (opening ++ body)
  have noDouble : take? "\"\"\"" input = some (false, input) := take?_other rfl
  have three : take? "'''" input = some (true, opening ++ body) :=
    take?_append "'''" (opening ++ body)
  have begins : opening = ['\n'] ∨ opening = [] ∧
      ∀ first ∈ body.head?, first ≠ '\n' ∧ first ≠ '\r' := by
    refine opens.imp_right fun ⟨empty, noLineEnd⟩ => ⟨empty, ?_⟩
    intro first head
    cases characters with
    | nil =>
        cases head
        decide
    | cons character characters =>
        cases head
        obtain printable | rfl := plain first List.mem_cons_self
        · exact noLineEnd_of_isPrintable printable
        · exact absurd List.mem_cons_self noLineEnd
  have enough : characters.length < body.length + 1 := by
    simp only [body, List.length_append]
    omega
  rw [readString, bind_of_eq noDouble, if_neg (by decide), bind_of_eq three, if_pos rfl,
    readManyLines_apply begins]
  exact readLines_raw (by decide) (by decide) (Nat.zero_le 2) characters [] rest plain short enough

end Reader

open Reader

theorem chooseQuotes_single {traits : Traits} (chosen : chooseQuotes traits = .single) :
    traits.hasLineEnd = false ∧ traits.hasControl = false ∧ traits.singleQuotes = 0 := by
  unfold chooseQuotes at chosen
  grind

theorem chooseQuotes_tripleSingle {traits : Traits} (chosen : chooseQuotes traits = .tripleSingle) :
    traits.hasControl = false ∧ traits.singleQuotes ≤ 2 := by
  unfold chooseQuotes at chosen
  grind

section

variable {characters : List Char}

theorem not_mem_of_traits (noLineEnd : (traits characters).hasLineEnd = false) : '\n' ∉ characters := by
  simpa [traits] using noLineEnd

theorem plain_of_traits (noControl : (traits characters).hasControl = false) :
    ∀ character ∈ characters, isPrintable character = true ∨ character = '\n' := by
  intro character member
  have plain : isControl character = false := by
    simp only [traits, List.any_eq_false] at noControl
    exact Bool.eq_false_iff.mpr (noControl character member)
  by_cases lineEnd : character = '\n'
  · exact .inr lineEnd
  · exact .inl (isPrintable_of_not_control plain lineEnd)

theorem opening_of_traits :
    let opening := if (traits characters).hasLineEnd then "\n" else ""
    opening.toList = ['\n'] ∨ opening.toList = [] ∧ '\n' ∉ characters := by
  intro opening
  cases lineEnd : (traits characters).hasLineEnd with
  | true => 
      left
      simp only [opening, lineEnd]
      rfl
  | false =>
      right
      refine ⟨?_, not_mem_of_traits lineEnd⟩
      simp only [opening, lineEnd]
      rfl

end

theorem readString_writeString (text : String) (rest : List Char) :
    readString ((writeString text).toList ++ '\n' :: rest) = some (text, '\n' :: rest) := by
  have opens := @opening_of_traits text.toList
  unfold writeString
  cases chosen : chooseQuotes (traits text.toList) with
  | double =>
      have read := readString_double text.toList rest
      simpa [chosen] using read
  | single =>
      obtain ⟨noLineEnd, noControl, noQuote⟩ := chooseQuotes_single chosen
      have plain : ∀ character ∈ text.toList, isPrintable character = true ∧ character ≠ '\'' := by
        intro character member
        constructor
        · refine (plain_of_traits noControl character member).resolve_right ?_
          rintro rfl
          exact not_mem_of_traits noLineEnd member
        · rintro rfl
          exact not_mem_of_longestRun noQuote member
      have read := readString_single plain rest
      simpa [chosen] using read
  | tripleDouble =>
      have read := readString_tripleDouble text.toList rest opens
      simpa [chosen] using read
  | tripleSingle =>
      obtain ⟨noControl, short⟩ := chooseQuotes_tripleSingle chosen
      have read := readString_tripleSingle (plain_of_traits noControl) short rest opens
      simpa [chosen] using read

end ScriptedShell.Toml
