import ScriptedShell.Toml.Document
import ScriptedShell.Toml.Scalar

/-!
Reading a TOML document line by line. Brackets and braces nest, and keys are dotted, up to a fixed
limit.
-/

namespace ScriptedShell.Toml

abbrev Reader := StateT (List Char) Option

/-- How deeply arrays and tables may nest in a value, and how many parts a key may have. -/
def nestingLimit : Nat := 80

namespace Reader

def fail {α : Type} : Reader α :=
  fun _ => none

def peek : Reader (Option Char) := do
  return (← get).head?

def skip (count : Nat) : Reader Unit :=
  modify fun characters => characters.drop count

def startsWith (text : String) : Reader Bool := do
  return text.toList.isPrefixOf (← get)

def take? (text : String) : Reader Bool := do
  if ← startsWith text then
    skip text.length
    return true
  else return false

def expect (text : String) : Reader Unit := do
  unless ← take? text do fail

def takeWhile (accept : Char → Bool) : Reader (List Char) := do
  let characters ← get
  set (characters.dropWhile accept)
  return characters.takeWhile accept

def isSpace (character : Char) : Bool :=
  character == ' ' || character == '\t'

def isPrintable (character : Char) : Bool :=
  character == '\t' || (0x20 ≤ character.toNat && character.toNat ≠ 0x7F)

def skipSpaces : Reader Unit := do
  let _ ← takeWhile isSpace

def takeLineEnd? : Reader Bool := do
  if ← take? "\n" then return true else take? "\r\n"

def skipComment : Reader Unit := do
  if ← take? "#" then
    let _ ← takeWhile isPrintable

def finishLine : Reader Unit := do
  skipSpaces
  skipComment
  if (← get).isEmpty then return
  else
    unless ← takeLineEnd? do fail

def skipLines : Nat → Reader Unit
  | 0 => return
  | fuel + 1 => do
    skipSpaces
    skipComment
    if ← takeLineEnd? then skipLines fuel else return

def readHex (count : Nat) : Reader Char := do
  let digits := (← get).take count
  if digits.length = count then
    match digits.mapM (Scalar.digitValue? 16) with
    | none => fail
    | some values =>
      let code := Scalar.valueOf 16 values
      if code.isValidChar then
        skip count
        return Char.ofNat code
      else fail
  else fail

def readEscape : Reader Char := do
  match ← get with
  | [] => fail
  | mark :: rest =>
    set rest
    match mark with
    | 'b' => return '\x08'
    | 'e' => return '\x1b'
    | 't' => return '\t'
    | 'n' => return '\n'
    | 'f' => return '\x0c'
    | 'r' => return '\r'
    | '"' => return '"'
    | '\\' => return '\\'
    | 'x' => readHex 2
    | 'u' => readHex 4
    | 'U' => readHex 8
    | _ => fail

def readBasic (read : List Char) : Nat → Reader String
  | 0 => fail
  | fuel + 1 => do
    match ← get with
    | [] => fail
    | character :: rest =>
      set rest
      if character = '"' then return String.ofList read.reverse
      else if character = '\\' then
        let character ← readEscape
        readBasic (character :: read) fuel
      else if isPrintable character then readBasic (character :: read) fuel
      else fail

def readLiteral : Reader String := do
  let characters ← takeWhile fun character => isPrintable character && character != '\''
  expect "'"
  return String.ofList characters

/-- Three quotes end a string of several lines; up to two more belong to it. -/
def closingQuotes? (quote : Char) (characters : List Char) : Option Nat :=
  let count := (characters.takeWhile (· == quote)).length
  if 3 ≤ count then some (min count 5) else none

/-- A backslash at the end of a line joins it with the next line that is not blank. -/
def joinsLines (characters : List Char) : Bool :=
  match characters.dropWhile isSpace with
  | '\n' :: _ => true
  | '\r' :: '\n' :: _ => true
  | _ => false

def isSpaceOrLineEnd (character : Char) : Bool :=
  isSpace character || character == '\n'

def dropBlankLines : List Char → List Char
  | [] => []
  | '\r' :: '\n' :: rest => dropBlankLines rest
  | character :: rest =>
    if isSpaceOrLineEnd character then dropBlankLines rest else character :: rest

def readLines (quote : Char) (read : List Char) : Nat → Reader String
  | 0 => fail
  | fuel + 1 => do
    let characters ← get
    match closingQuotes? quote characters with
    | some count =>
      skip count
      return String.ofList (read.reverse ++ List.replicate (count - 3) quote)
    | none =>
      match characters with
      | [] => fail
      | '\r' :: '\n' :: rest =>
        set rest
        readLines quote ('\n' :: '\r' :: read) fuel
      | character :: rest =>
        set rest
        if character = '\\' ∧ quote = '"' then
          if joinsLines rest then
            set (dropBlankLines rest)
            readLines quote read fuel
          else
            let character ← readEscape
            readLines quote (character :: read) fuel
        else if isPrintable character || character == '\n' then
          readLines quote (character :: read) fuel
        else fail

/-- A string of several lines after its opening quotes. A line end directly behind these is not part
of it. -/
def readManyLines (quote : Char) : Reader String := do
  let _ ← takeLineEnd?
  readLines quote [] ((← get).length + 1)

def readString : Reader String := do
  if ← take? "\"\"\"" then readManyLines '"'
  else if ← take? "'''" then readManyLines '\''
  else if ← take? "\"" then readBasic [] ((← get).length + 1)
  else if ← take? "'" then readLiteral
  else fail

def isKeyCharacter (character : Char) : Bool :=
  character.isAlphanum || character == '_' || character == '-'

def readKeyPart : Reader String := do
  match ← peek with
  | some '"' =>
    skip 1
    readBasic [] ((← get).length + 1)
  | some '\'' =>
    skip 1
    readLiteral
  | _ =>
    let characters ← takeWhile isKeyCharacter
    if characters.isEmpty then fail else return String.ofList characters

def readParts : Nat → Reader (List String)
  | 0 => fail
  | parts + 1 => do
    skipSpaces
    let part ← readKeyPart
    skipSpaces
    if ← take? "." then return part :: (← readParts parts) else return [part]

def readKey : Reader (List String) :=
  readParts nestingLimit

def isScalarCharacter (character : Char) : Bool :=
  character.isAlphanum || character == '+' || character == '-' || character == '_'
    || character == '.' || character == ':'

/-- A scalar's run of characters. A blank may stand between a date and a time. -/
def readScalar : Reader Toml := do
  let characters ← takeWhile isScalarCharacter
  let following ← get
  let characters ←
    match Scalar.skipDate? characters, following with
    | some [], ' ' :: digit :: _ =>
      if digit.isDigit then
        skip 1
        pure (characters ++ [' '] ++ (← takeWhile isScalarCharacter))
      else pure characters
    | _, _ => pure characters
  match Scalar.read? characters with
  | some value => return value
  | none => fail

mutual

def readValue (depth : Nat) : Nat → Reader Toml
  | 0 => fail
  | fuel + 1 => do
    match ← peek with
    | some '"' | some '\'' => return .text (← readString)
    | some '[' =>
      skip 1
      if depth = 0 then fail else return .array (← readItems (depth - 1) fuel)
    | some '\x7b' =>
      skip 1
      if depth = 0 then fail
      else
        let entries ← readInline (depth - 1) [] fuel
        return .table (entriesToToml entries)
    | _ => readScalar

def readItems (depth : Nat) : Nat → Reader (List Toml)
  | 0 => fail
  | fuel + 1 => do
    skipLines ((← get).length + 1)
    if ← take? "]" then return []
    else
      let item ← readValue depth fuel
      skipLines ((← get).length + 1)
      if ← take? "," then return item :: (← readItems depth fuel)
      else
        expect "]"
        return [item]

def readInline (depth : Nat) (entries : Entries) : Nat → Reader Entries
  | 0 => fail
  | fuel + 1 => do
    skipLines ((← get).length + 1)
    if ← take? "\x7d" then return entries
    else
      let key ← readKey
      expect "="
      skipSpaces
      let value ← readValue depth fuel
      skipLines ((← get).length + 1)
      match entries.insert value true key with
      | none => fail
      | some entries =>
        if ← take? "," then readInline depth entries fuel
        else
          expect "\x7d"
          return entries

end

def readHeader (repeated : Bool) : Reader Line := do
  let path ← readKey
  expect (if repeated then "]]" else "]")
  return .header path repeated

def readEntry : Reader Line := do
  let path ← readKey
  expect "="
  skipSpaces
  return .entry path (← readValue nestingLimit ((← get).length + 1))

def readLine : Reader Line := do
  if ← take? "[[" then readHeader true
  else if ← take? "[" then readHeader false
  else readEntry

def readDocument (document : Document) : Nat → Reader Document
  | 0 => fail
  | fuel + 1 => do
    skipSpaces
    if (← get).isEmpty then return document
    else if (← startsWith "#") || (← startsWith "\n") || (← startsWith "\r\n") then
      finishLine
      readDocument document fuel
    else
      let line ← readLine
      finishLine
      match document.add line with
      | some document => readDocument document fuel
      | none => fail

end Reader

def skipByteOrderMark (characters : List Char) : List Char :=
  match characters with
  | '\uFEFF' :: rest => rest
  | characters => characters

def read (text : String) : Option (List (String × Toml)) :=
  let characters := skipByteOrderMark text.toList
  match (Reader.readDocument {} (characters.length + 1)).run characters with
  | some (document, _) => some (entriesToToml document.root)
  | none => none

end ScriptedShell.Toml
