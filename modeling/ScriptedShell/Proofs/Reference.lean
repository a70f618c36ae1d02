import ScriptedShell.Proofs.CommandRun
import ScriptedShell.Proofs.LiteralText

/-!
References to variables. A word that is nothing but a reference expands to the value, which is not looked
into again, and is no field at all if the value is empty and nothing of the word was quoted.
-/

namespace ScriptedShell

namespace Template

theorem readFrom_identifier {name rest : List Char} (identifier : isIdentifierChars name = true)
    (stops : ∀ character ∈ rest.head?, isNamePart character = false) :
    readFrom .nothing ('$' :: (name ++ rest)) = .named name :: readFrom .nothing rest := by
  cases name with
  | nil => contradiction
  | cons first later =>
      simp only [isIdentifierChars, Bool.and_eq_true, List.all_eq_true] at identifier
      obtain ⟨start, others⟩ := identifier
      have now := isNamePart_of_isNameStart start
      have brace := ne_of_isNamePart now '{' (by decide)
      have noDigit := isDigit_of_isNameStart start
      have noSpecial : isSpecialParameter first = false := by
        simp [isSpecialParameter, ne_of_isNamePart now '?' (by decide),
          ne_of_isNamePart now '#' (by decide), ne_of_isNamePart now '@' (by decide),
          ne_of_isNamePart now '*' (by decide)]
      simp only [List.cons_append, readFrom, brace, noDigit, noSpecial, start, if_true,
        if_false, Bool.or_self, Bool.false_eq_true]
      exact readFrom_named [first] others stops

theorem read_name {name : String} (identifier : isIdentifier name = true) (rest : String)
    (stops : ∀ character ∈ rest.toList.head?, isNamePart character = false) :
    read ("$" ++ name ++ rest) = .named name.toList :: read rest := by
  have spelled : ("$" ++ name ++ rest).toList = '$' :: (name.toList ++ rest.toList) := by simp
  rw [read, spelled]
  exact readFrom_identifier identifier stops

theorem read_reference {name : String} (closed : '}' ∉ name.toList) (rest : String) :
    read (Quoting.reference name ++ rest) = .braced name.toList :: read rest := by
  have spelled : (Quoting.reference name ++ rest).toList =
      '$' :: '{' :: (name.toList ++ '}' :: rest.toList) := by
    simp [Quoting.reference]
  have opened : readFrom .nothing ('$' :: '{' :: (name.toList ++ '}' :: rest.toList)) =
      readFrom (.braced []) (name.toList ++ '}' :: rest.toList) := rfl
  rw [read, spelled, opened, readFrom_braced [] rest.toList closed]
  rfl

end Template

namespace Quoting

/-- The ways to write a reference to a variable. -/
inductive Refers (name : String) : String → Prop where
  | bare : Refers name ("$" ++ name)
  | braced : Refers name (reference name)

def referring (quoted : Bool) (spelling : String) : Word :=
  ⟨spelling, { hasDollar := true, quoted, assignment := isAssignmentText spelling }⟩

namespace Refers

variable {name spelling : String}

theorem read_eq (refers : Refers name spelling) (identifier : isIdentifier name = true) :
    Template.read spelling = [.named name.toList] ∨
      Template.read spelling = [.braced name.toList] := by
  cases refers with
  | bare =>
      left
      have read := Template.read_name identifier "" nofun
      rwa [String.append_empty] at read
  | braced =>
      right
      have closed := notMem_of_isIdentifier identifier '}' (by decide)
      have read := Template.read_reference closed ""
      rwa [String.append_empty] at read

theorem expandText (refers : Refers name spelling) (identifier : isIdentifier name = true)
    (shell : Shell) : shell.expandText spelling = (shell.bindings.value? name).getD "" := by
  rw [← shell.parameter_of_isIdentifier identifier, Shell.expandText, Template.fill]
  rcases refers.read_eq identifier with named | braced
  · rw [named]
    simp [Piece.value, String.join]
  · rw [braced]
    simp [Piece.value, String.join]

theorem expandWord (refers : Refers name spelling) (identifier : isIdentifier name = true)
    (quoted : Bool) {shell : Shell} {value : String}
    (stored : shell.bindings.value? name = some value) :
    shell.expandWord (referring quoted spelling) =
      if value.isEmpty && !quoted then [] else [value] := by
  have different : spelling ≠ Shell.allArguments := by
    rintro rfl
    have read : Template.read Shell.allArguments = [.single '@'] := by decide
    rcases refers.read_eq identifier with named | braced
    · rw [read] at named
      cases named
    · rw [read] at braced
      cases braced
  have filled := refers.expandText identifier shell
  rw [stored, Option.getD_some] at filled
  simp [Shell.expandWord, referring, different, filled]

end Refers

end Quoting

end ScriptedShell
