import ScriptedShell.Script.Number
import ScriptedShell.Text.Utf16

/-!
The tokens of a script's text: words, numbers, strings and marks, each with its place in the text.
-/

namespace ScriptedShell.Script

/-- Why a text is not read: it is no script, or it has a form that this reader does not know. -/
inductive Problem where
  | refused (message : String)
  | unsupported (form : String)
deriving Inhabited

inductive TokenKind where
  | word (text : String)
  | number (value : Float)
  | whole (value : Int)
  | text (units : Units)
  | mark (text : String)
  /-- Characters that are no token. -/
  | invalid (problem : Problem)
deriving Inhabited

structure Token where
  kind : TokenKind
  afterLineEnd : Bool
  line : Nat
  /-- The numbers of characters before the token and before its end. -/
  start : Nat
  stop : Nat
deriving Inhabited

namespace Token

def isLineEnd (character : Char) : Bool :=
  character == '\n' || character == '\r' || character == '\u2028' || character == '\u2029'

def isWordStart (character : Char) : Bool :=
  character.isAlpha || character == '_' || character == '$' || 0x80 ≤ character.toNat

def isWordPart (character : Char) : Bool :=
  isWordStart character || character.isDigit

def skipBlockComment (ended : Bool) : List Char → Option (Bool × List Char)
  | [] => none
  | '*' :: '/' :: rest => some (ended, rest)
  | character :: rest => skipBlockComment (ended || isLineEnd character) rest

def simpleEscape (character : Char) : Char :=
  match character with
  | 'n' => '\n'
  | 't' => '\t'
  | 'r' => '\r'
  | 'b' => '\x08'
  | 'f' => '\x0c'
  | 'v' => '\x0b'
  | other => other

def badEscape : Problem :=
  .unsupported "escape sequence"

def readEscape : List Char → Except Problem (Units × List Char)
  | 'x' :: first :: second :: rest => escaped [first, second] rest
  | 'u' :: first :: second :: third :: fourth :: rest =>
    if first = '\x7b' then .error badEscape else escaped [first, second, third, fourth] rest
  | '\r' :: '\n' :: rest => .ok ([], rest)
  | '0' :: rest =>
    if rest.head?.any Char.isDigit then .error badEscape else .ok ([0], rest)
  | character :: rest =>
    if character.isDigit || character == 'x' || character == 'u' then .error badEscape
    else if isLineEnd character then .ok ([], rest)
    else .ok (Utf16.encodeChar (simpleEscape character), rest)
  | [] => .error (.refused "unexpected end of string")
where
  escaped (digits rest : List Char) : Except Problem (Units × List Char) :=
    match Number.readDigits? 16 digits with
    | some unit => .ok ([UInt16.ofNat unit], rest)
    | none => .error badEscape

/-- The inside of a string up to its quote. Each step takes a character, so the length of the text is
enough fuel. -/
def readQuoted (quote : Char) : Nat → Units → List Char → TokenKind × List Char
  | 0, _, _ | _, _, [] => (.invalid (.refused "unexpected end of string"), [])
  | fuel + 1, read, '\\' :: rest =>
    match readEscape rest with
    | .ok (units, rest) => readQuoted quote fuel (read ++ units) rest
    | .error problem => (.invalid problem, [])
  | fuel + 1, read, character :: rest =>
    if character = quote then (.text read, rest)
    else if character = '\n' ∨ character = '\r' then
      (.invalid (.refused "unexpected end of string"), [])
    else readQuoted quote fuel (read ++ Utf16.encodeChar character) rest

def exponentPart : List Char → List Char
  | [] => []
  | mark :: rest =>
    let sign := rest.take 1 |>.filter fun character => character == '+' || character == '-'
    let digits := (rest.drop sign.length).takeWhile Char.isDigit
    if (mark = 'e' ∨ mark = 'E') ∧ digits ≠ [] then mark :: (sign ++ digits) else []

def decimalPart (characters : List Char) : List Char :=
  let whole := characters.takeWhile Char.isDigit
  let rest := characters.drop whole.length
  let fraction := match rest with
    | '.' :: rest => '.' :: rest.takeWhile Char.isDigit
    | _ => []
  whole ++ fraction ++ exponentPart (rest.drop fraction.length)

def isRadixMark (character : Char) : Bool :=
  "xXoObB".toList.contains character

def numberPart (characters : List Char) : List Char :=
  match characters with
  | '0' :: mark :: rest =>
    if isRadixMark mark then '0' :: mark :: rest.takeWhile Char.isAlphanum
    else decimalPart characters
  | characters => decimalPart characters

def badNumber : TokenKind :=
  .invalid (.refused "invalid number literal")

def readNumber (characters : List Char) : TokenKind × List Char :=
  let part := numberPart characters
  let rest := characters.drop part.length
  if (part.head? == some '0' && (part.drop 1).head?.any Char.isDigit) || rest.head? == some '_' then
    (.invalid (.unsupported "number"), [])
  else if rest.head? == some 'n' || part.getLast? == some 'n' then
    let digits := part.filter (· ≠ 'n')
    let rest := if rest.head? == some 'n' then rest.drop 1 else rest
    match Number.readWhole? (String.ofList digits) with
    | some whole => if rest.head?.any isWordPart then (badNumber, []) else (.whole whole, rest)
    | none => (badNumber, [])
  else if rest.head?.any isWordPart then (badNumber, [])
  else
    match Number.read? (String.ofList part) with
    | some value => (.number value, rest)
    | none => (badNumber, [])

def longMarks : List String :=
  [">>>=", "...", "===", "!==", "**=", "<<=", ">>=", ">>>", "&&=", "||=", "??=", "=>", "==", "!=",
    "<=", ">=", "&&", "||", "??", "?.", "++", "--", "+=", "-=", "*=", "/=", "%=", "&=", "|=", "^=",
    "<<", ">>", "**"]

def readMark (characters : List Char) : TokenKind × List Char :=
  match longMarks.find? fun mark => mark.toList.isPrefixOf characters with
  | some mark => (.mark mark, characters.drop mark.length)
  | none =>
    match characters with
    | character :: rest => (.mark character.toString, rest)
    | [] => (.mark "", [])

def startsNumber : List Char → Bool
  | '.' :: digit :: _ => digit.isDigit
  | digit :: _ => digit.isDigit
  | [] => false

def readToken (characters : List Char) : TokenKind × List Char :=
  match characters with
  | [] => (.mark "", [])
  | first :: rest =>
    if isWordStart first then
      (.word (String.ofList (characters.takeWhile isWordPart)), characters.dropWhile isWordPart)
    else if startsNumber characters then readNumber characters
    else if first = '"' ∨ first = '\'' then readQuoted first (rest.length + 1) [] rest
    else readMark characters

def lineEnds : List Char → Nat
  | [] => 0
  | '\r' :: '\n' :: rest => lineEnds rest + 1
  | character :: rest => lineEnds rest + if isLineEnd character then 1 else 0

/-- The tokens of a text that begins at a line and a character of the whole one. Each step takes a
character at least, so the length of the text is enough fuel. -/
def read : Nat → Bool → Nat → Nat → List Char → List Token
  | 0, _, _, _, _ => []
  | fuel + 1, afterLineEnd, line, start, characters =>
    let behind := fun (rest : List Char) => start + (characters.length - rest.length)
    let lineBehind := fun (rest : List Char) =>
      line + lineEnds (characters.take (characters.length - rest.length))
    match characters with
    | [] => []
    | '/' :: '/' :: comment =>
      let rest := comment.dropWhile fun next => !isLineEnd next
      read fuel afterLineEnd line (behind rest) rest
    | '/' :: '*' :: comment =>
      match skipBlockComment false comment with
      | some (ended, rest) =>
        read fuel (afterLineEnd || ended) (lineBehind rest) (behind rest) rest
      | none =>
        [⟨.invalid (.refused "unexpected end of comment"), afterLineEnd, line, start, start⟩]
    | character :: rest =>
      if isLineEnd character then
        let ends := character ≠ '\r' ∨ rest.head? ≠ some '\n'
        read fuel true (if ends then line + 1 else line) (start + 1) rest
      else if Number.isIgnored character then read fuel afterLineEnd line (start + 1) rest
      else
        let (kind, rest) := readToken characters
        ⟨kind, afterLineEnd, line, start, behind rest⟩
          :: read fuel false (lineBehind rest) (behind rest) rest

def skipInterpreterLine (characters : List Char) : List Char :=
  match characters with
  | '#' :: '!' :: rest => rest.dropWhile fun next => !isLineEnd next
  | characters => characters

def ofText (text : List Char) : List Token :=
  let characters := skipInterpreterLine text
  read (characters.length + 1) false 1 (text.length - characters.length) characters

end Token

end ScriptedShell.Script
