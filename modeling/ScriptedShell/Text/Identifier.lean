/-!
Identifiers: an ASCII letter or underscore, then ASCII letters, digits and underscores.
-/

namespace ScriptedShell

def isNameStart (character : Char) : Bool :=
  character.isAlpha || character == '_'

def isNamePart (character : Char) : Bool :=
  character.isAlphanum || character == '_'

def isIdentifierChars : List Char → Bool
  | [] => false
  | first :: rest => isNameStart first && rest.all isNamePart

def isIdentifier (text : String) : Bool :=
  isIdentifierChars text.toList

end ScriptedShell
