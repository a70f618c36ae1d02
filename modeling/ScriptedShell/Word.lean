import ScriptedShell.Text.Identifier

/-!
Words: a text and what the shell noted about it when it was read.
-/

namespace ScriptedShell

structure WordFlags where
  /-- The text holds a `$` that is to be expanded. -/
  hasDollar : Bool := false
  /-- Some of the word was quoted, so it stays a field even when it expands to nothing. -/
  quoted : Bool := false
  /-- The word has the form `NAME=value`. -/
  assignment : Bool := false
  /-- The text is to be taken as it is. -/
  noExpand : Bool := false
deriving DecidableEq, Repr, Inhabited

namespace WordFlags

/-- The four flags as the bits 1, 2, 4 and 8; other bits are dropped. -/
def ofBits (bits : Nat) : WordFlags where
  hasDollar := bits.testBit 0
  quoted := bits.testBit 1
  assignment := bits.testBit 2
  noExpand := bits.testBit 3

def toBits (flags : WordFlags) : Nat :=
  flags.hasDollar.toNat + 2 * flags.quoted.toNat + 4 * flags.assignment.toNat
    + 8 * flags.noExpand.toNat

end WordFlags

def splitAtFirst (mark : Char) : List Char → Option (List Char × List Char)
  | [] => none
  | character :: rest =>
    if character = mark then some ([], rest)
    else (splitAtFirst mark rest).map fun (before, after) => (character :: before, after)

def splitAtEquals (text : String) : Option (String × String) :=
  (splitAtFirst '=' text.toList).map fun (before, after) =>
    (String.ofList before, String.ofList after)

def isAssignmentText (text : String) : Bool :=
  match splitAtFirst '=' text.toList with
  | some (before, _) => isIdentifierChars before
  | none => false

def WordFlags.ofText (text : String) : WordFlags where
  hasDollar := text.toList.contains '$'
  quoted := text.toList.any fun character =>
    character == '\'' || character == '"' || character == '\\'
  assignment := isAssignmentText text

structure Word where
  text : String
  flags : WordFlags
deriving DecidableEq, Repr, Inhabited

namespace Word

def ofText (text : String) : Word :=
  ⟨text, WordFlags.ofText text⟩

def literal (text : String) : Word :=
  ⟨text, { noExpand := true }⟩

def assignment? (word : Word) : Option (String × String) :=
  if word.flags.assignment then splitAtEquals word.text else none

def join (words : List Word) : String :=
  " ".intercalate (words.map text)

end Word

end ScriptedShell
