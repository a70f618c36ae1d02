import ScriptedShell.Text.Identifier

/-!
Texts with references. `Template.read` cuts a text into literal characters and references, and
`Template.fill` puts the values in. A value is never looked into again.
-/

namespace ScriptedShell

inductive Piece where
  | literal (character : Char)
  /-- A dollar that starts no reference. -/
  | dollar
  | braced (name : List Char)
  /-- A brace left open: the rest of the text is the name. -/
  | unclosed (name : List Char)
  /-- One digit, or one of `?`, `#`, `@` and `*`. -/
  | single (name : Char)
  | named (name : List Char)
deriving DecidableEq, Repr

namespace Piece

def spelling : Piece → List Char
  | .literal character => [character]
  | .dollar => ['$']
  | .braced name => '$' :: '{' :: (name ++ ['}'])
  | .unclosed name => '$' :: '{' :: name
  | .single name => ['$', name]
  | .named name => '$' :: name

def value (parameter : String → String) : Piece → String
  | .literal character => character.toString
  | .dollar => "$"
  | .braced name | .unclosed name | .named name => parameter (String.ofList name)
  | .single name => parameter name.toString

end Piece

def isSpecialParameter (character : Char) : Bool :=
  character == '?' || character == '#' || character == '@' || character == '*'

namespace Template

/-- What the characters read so far leave open. The name read so far is kept backwards. -/
inductive Pending where
  | nothing
  | dollar
  | braced (name : List Char)
  | named (name : List Char)
deriving DecidableEq, Repr

def readFrom : Pending → List Char → List Piece
  | .nothing, [] => []
  | .nothing, character :: rest =>
    if character = '$' then readFrom .dollar rest
    else .literal character :: readFrom .nothing rest
  | .dollar, [] => [.dollar]
  | .dollar, character :: rest =>
    if character = '{' then readFrom (.braced []) rest
    else if character.isDigit || isSpecialParameter character then
      .single character :: readFrom .nothing rest
    else if isNameStart character then readFrom (.named [character]) rest
    else if character = '$' then .dollar :: readFrom .dollar rest
    else .dollar :: .literal character :: readFrom .nothing rest
  | .braced name, [] => [.unclosed name.reverse]
  | .braced name, character :: rest =>
    if character = '}' then .braced name.reverse :: readFrom .nothing rest
    else readFrom (.braced (character :: name)) rest
  | .named name, [] => [.named name.reverse]
  | .named name, character :: rest =>
    if isNamePart character then readFrom (.named (character :: name)) rest
    else if character = '$' then .named name.reverse :: readFrom .dollar rest
    else .named name.reverse :: .literal character :: readFrom .nothing rest

def read (text : String) : List Piece :=
  readFrom .nothing text.toList

def fill (parameter : String → String) (text : String) : String :=
  String.join ((read text).map (Piece.value parameter))

end Template

end ScriptedShell
