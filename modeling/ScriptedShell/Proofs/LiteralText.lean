import Mathlib.Data.List.Basic
import ScriptedShell.Proofs.Quoting
import ScriptedShell.Shell

/-!
Texts that expansion leaves alone: those in which no dollar begins a reference. A reference between
braces behind such a text is read on its own.
-/

namespace ScriptedShell

def Quoting.reference (name : String) : String :=
  "$\x7b" ++ name ++ "\x7d"

def Piece.isReference : Piece → Bool
  | .literal _ | .dollar => false
  | .braced _ | .unclosed _ | .single _ | .named _ => true

namespace Template

def noReference (pieces : List Piece) : Bool :=
  pieces.all fun piece => !piece.isReference

/-- No dollar of the text begins a reference. -/
def isLiteral (text : String) : Bool :=
  noReference (read text)

/-- The characters that have been read and belong to no piece yet. -/
def Pending.spelling : Pending → List Char
  | .nothing => []
  | .dollar => ['$']
  | .braced name => '$' :: '{' :: name.reverse
  | .named name => '$' :: name.reverse

theorem spelling_readFrom (pending : Pending) (characters : List Char) :
    (readFrom pending characters).flatMap Piece.spelling = pending.spelling ++ characters := by
  fun_induction readFrom pending characters <;>
    simp_all [Pending.spelling, Piece.spelling]

theorem value_eq_of_literal {piece : Piece} (literal : piece.isReference = false)
    (parameter : String → String) : (piece.value parameter).toList = piece.spelling := by
  cases piece with
  | literal character => simp [Piece.value, Piece.spelling]
  | dollar => simp [Piece.value, Piece.spelling]
  | braced name => contradiction
  | unclosed name => contradiction
  | single name => contradiction
  | named name => contradiction

theorem toList_fill (parameter : String → String) (text : String) :
    (fill parameter text).toList =
      (read text).flatMap fun piece => (piece.value parameter).toList := by
  rw [fill, String.toList_join, List.flatMap_map]

theorem fill_eq_self {text : String} (literal : isLiteral text = true)
    (parameter : String → String) : fill parameter text = text := by
  have plain : ∀ piece ∈ read text, (piece.value parameter).toList = piece.spelling := by
    intro piece member
    refine value_eq_of_literal ?_ parameter
    simpa using List.all_eq_true.mp literal piece member
  rw [← String.toList_inj, toList_fill, List.flatMap_congr plain, read, spelling_readFrom]
  rfl

theorem readFrom_braced (before : List Char) {name : List Char} (rest : List Char)
    (closed : '}' ∉ name) :
    readFrom (.braced before) (name ++ '}' :: rest) =
      .braced (before.reverse ++ name) :: readFrom .nothing rest := by
  induction name generalizing before with
  | nil => simp [readFrom]
  | cons first later ih =>
      simp only [List.mem_cons, not_or] at closed
      rw [List.cons_append, readFrom, if_neg (Ne.symm closed.1), ih _ closed.2]
      simp

def Pending.isOpen : Pending → Bool
  | .nothing | .dollar => false
  | .braced _ | .named _ => true

theorem noReference_readFrom_of_open {pending : Pending} (begun : pending.isOpen = true)
    (characters : List Char) : noReference (readFrom pending characters) = false := by
  fun_induction readFrom pending characters <;>
    simp_all [noReference, Pending.isOpen, Piece.isReference]

theorem readFrom_append {pending : Pending} {characters : List Char} (rest : List Char)
    (closed : pending.isOpen = false)
    (literal : noReference (readFrom pending characters) = true) :
    readFrom pending (characters ++ '$' :: rest) =
      readFrom pending characters ++ readFrom .dollar rest := by
  -- Between references the reader either has read nothing or holds back one dollar.
  fun_induction readFrom pending characters with
  | case1 => rfl
  | case2 later ih => exact ih rfl literal
  | case3 character later notDollar ih =>
      have more := ih rfl literal
      simp [readFrom, notDollar, more]
  | case4 => rfl
  | case5 later ih =>
      rw [noReference_readFrom_of_open rfl] at literal
      contradiction
  | case6 character later => contradiction
  | case7 character later notBrace notSingle start ih =>
      rw [noReference_readFrom_of_open rfl] at literal
      contradiction
  | case8 later _ _ _ ih => exact congrArg (Piece.dollar :: ·) (ih rfl literal)
  | case9 character later notBrace notSingle notStart notDollar ih =>
      have more := ih rfl literal
      simp [readFrom, notBrace, notSingle, notStart, notDollar, more]
  | _ => contradiction

theorem read_append_reference {text name : String} (literal : isLiteral text = true)
    (closed : '}' ∉ name.toList) :
    read (text ++ Quoting.reference name) = read text ++ [.braced name.toList] := by
  have characters : (text ++ Quoting.reference name).toList =
      text.toList ++ '$' :: '{' :: (name.toList ++ '}' :: []) := by
    simp [Quoting.reference]
  have opened : readFrom .dollar ('{' :: (name.toList ++ '}' :: [])) =
      readFrom (.braced []) (name.toList ++ '}' :: []) := rfl
  rw [read, characters, readFrom_append _ rfl literal, opened, readFrom_braced [] [] closed]
  rfl

theorem fill_append_reference {text name : String} (literal : isLiteral text = true)
    (closed : '}' ∉ name.toList) (parameter : String → String) :
    fill parameter (text ++ Quoting.reference name) = text ++ parameter name := by
  have before := congrArg String.toList (fill_eq_self literal parameter)
  rw [toList_fill] at before
  rw [← String.toList_inj, toList_fill, read_append_reference literal closed, List.flatMap_append,
    before]
  simp [Piece.value]

theorem isLiteral_of_notMem {text : String} (noDollar : '$' ∉ text.toList) :
    isLiteral text = true := by
  rw [isLiteral, read]
  generalize text.toList = characters at noDollar
  induction characters with
  | nil => rfl
  | cons first rest ih =>
      rw [List.mem_cons, not_or] at noDollar
      rw [readFrom, if_neg (Ne.symm noDollar.1)]
      exact ih noDollar.2

/-- A name ends before the first character that cannot be part of it. -/
theorem readFrom_named (before : List Char) {name rest : List Char}
    (parts : ∀ character ∈ name, isNamePart character = true)
    (stops : ∀ character ∈ rest.head?, isNamePart character = false) :
    readFrom (.named before) (name ++ rest) =
      .named (before.reverse ++ name) :: readFrom .nothing rest := by
  induction name generalizing before with
  | nil =>
      cases rest with
      | nil => simp [readFrom]
      | cons first rest =>
          have other : isNamePart first = false := stops first rfl
          by_cases dollar : first = '$'
          · subst dollar
            simp [readFrom, other]
          · simp [readFrom, other, dollar]
  | cons first later ih =>
      obtain ⟨now, others⟩ := List.forall_mem_cons.mp parts
      rw [List.cons_append, readFrom, if_pos now, ih (first :: before) others]
      simp

end Template

theorem Shell.expandWord_of_given (shell : Shell) {word : Word}
    (literal : Template.isLiteral word.text = true) (given : word.text.isEmpty = false) :
    shell.expandWord word = [word.text] := by
  have different : word.text ≠ allArguments := by
    intro same
    rw [same] at literal
    contradiction
  have kept : shell.expandText word.text = word.text := Template.fill_eq_self literal _
  simp [expandWord, different, kept, given]

theorem Shell.expandWord_of_isLiteral (shell : Shell) {text : String}
    (literal : Template.isLiteral text = true) : shell.expandWord (.ofText text) = [text] := by
  cases live : (Word.ofText text).flags.hasDollar with
  | true =>
      have given : text.isEmpty = false := by
        rw [Bool.eq_false_iff, Ne, String.isEmpty_iff]
        rintro rfl
        contradiction
      exact shell.expandWord_of_given literal given
  | false =>
      rw [expandWord, live]
      rfl

end ScriptedShell
