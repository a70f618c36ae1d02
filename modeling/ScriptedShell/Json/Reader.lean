import ScriptedShell.Json

/-!
Reading JSON. The text is cut into tokens, and the tokens are put together on a stack of open arrays
and objects, so that nesting costs no recursion.
-/

namespace ScriptedShell.Json

inductive Token where
  | openArray
  | closeArray
  | openObject
  | closeObject
  | colon
  | comma
  | value (json : Json)

def isSpace (character : Char) : Bool :=
  character == ' ' || character == '\t' || character == '\n' || character == '\r'

def hexValue? (character : Char) : Option Nat :=
  if '0' ≤ character ∧ character ≤ '9' then some (character.toNat - '0'.toNat)
  else if 'a' ≤ character ∧ character ≤ 'f' then some (character.toNat - 'a'.toNat + 10)
  else if 'A' ≤ character ∧ character ≤ 'F' then some (character.toNat - 'A'.toNat + 10)
  else none

def hexUnit? (digits : List Char) : Option UInt16 := do
  let values ← digits.mapM hexValue?
  return UInt16.ofNat (values.foldl (fun number value => 16 * number + value) 0)

def simpleEscape? (character : Char) : Option Char :=
  match character with
  | '"' => some '"'
  | '\\' => some '\\'
  | '/' => some '/'
  | 'b' => some '\x08'
  | 'f' => some '\x0c'
  | 'n' => some '\n'
  | 'r' => some '\r'
  | 't' => some '\t'
  | _ => none

/-- The units of a string after its opening quote, read backwards onto `units`, and what follows its
closing quote. -/
def readString (units : Units) : List Char → Option (Units × List Char)
  | [] => none
  | '"' :: rest => some (units.reverse, rest)
  | '\\' :: 'u' :: first :: second :: third :: fourth :: rest =>
    match hexUnit? [first, second, third, fourth] with
    | some unit => readString (unit :: units) rest
    | none => none
  | '\\' :: character :: rest =>
    match simpleEscape? character with
    | some plain => readString ((Utf16.encodeChar plain).reverse ++ units) rest
    | none => none
  | character :: rest =>
    if character.toNat < 0x20 ∨ character = '\\' then none
    else readString ((Utf16.encodeChar character).reverse ++ units) rest

def readDigits (characters : List Char) : Option (List Char × List Char) :=
  let digits := characters.takeWhile Char.isDigit
  if digits.isEmpty then none else some (digits, characters.dropWhile Char.isDigit)

def readExponent (number : JsonNumber) (characters : List Char) :
    Option (JsonNumber × List Char) :=
  match characters with
  | mark :: rest =>
    if mark = 'e' ∨ mark = 'E' then do
      let (negative, rest) := match rest with
        | '-' :: rest => (true, rest)
        | '+' :: rest => (false, rest)
        | rest => (false, rest)
      let (exponent, rest) ← readDigits rest
      return ({ number with exponentNegative := negative, exponent, scaled := true }, rest)
    else some (number, characters)
  | [] => some (number, [])

def readFraction (number : JsonNumber) (characters : List Char) :
    Option (JsonNumber × List Char) :=
  match characters with
  | '.' :: rest => do
    let (fraction, rest) ← readDigits rest
    readExponent { number with fraction, scaled := true } rest
  | _ => readExponent number characters

def readNumber (negative : Bool) (characters : List Char) : Option (JsonNumber × List Char) :=
  match characters with
  | '0' :: rest =>
    match rest with
    | next :: _ =>
      if next.isDigit then none else readFraction { negative, integer := ['0'] } rest
    | [] => some ({ negative, integer := ['0'] }, [])
  | _ => do
    let (integer, rest) ← readDigits characters
    readFraction { negative, integer } rest

def readWord (characters : List Char) : Option (Json × List Char) :=
  match characters with
  | 't' :: 'r' :: 'u' :: 'e' :: rest => some (.boolean true, rest)
  | 'f' :: 'a' :: 'l' :: 's' :: 'e' :: rest => some (.boolean false, rest)
  | 'n' :: 'u' :: 'l' :: 'l' :: rest => some (.null, rest)
  | '-' :: rest => (readNumber true rest).map fun (value, rest) => (.number value, rest)
  | '"' :: rest => (readString [] rest).map fun (units, rest) => (.string units, rest)
  | _ => (readNumber false characters).map fun (value, rest) => (.number value, rest)

def readToken (characters : List Char) : Option (Token × List Char) :=
  match characters with
  | '[' :: rest => some (.openArray, rest)
  | ']' :: rest => some (.closeArray, rest)
  | '{' :: rest => some (.openObject, rest)
  | '}' :: rest => some (.closeObject, rest)
  | ':' :: rest => some (.colon, rest)
  | ',' :: rest => some (.comma, rest)
  | _ => (readWord characters).map fun (json, rest) => (.value json, rest)

/-- An array or an object that is not closed yet, its contents backwards. -/
inductive Frame where
  | array (items : List Json)
  | object (members : List (Units × Json)) (name : Units)

inductive Expected where
  | value
  | firstItem
  | firstName
  | name
  | colon
  | separator

structure Assembly where
  frames : List Frame := []
  expected : Expected := .value
  result : Option Json := none

def Assembly.complete (assembly : Assembly) (json : Json) : Assembly :=
  match assembly.frames with
  | [] => { assembly with expected := .separator, result := some json }
  | .array items :: frames => { assembly with
      frames := .array (json :: items) :: frames, expected := .separator }
  | .object members name :: frames => { assembly with
      frames := .object ((name, json) :: members) [] :: frames, expected := .separator }

def Assembly.close (assembly : Assembly) (token : Token) : Option Assembly :=
  match token, assembly.frames with
  | .closeArray, .array items :: frames =>
    some ({ assembly with frames }.complete (.array items.reverse))
  | .closeObject, .object members _ :: frames =>
    some ({ assembly with frames }.complete (.object members.reverse))
  | _, _ => none

def Assembly.takeName (assembly : Assembly) (json : Json) : Option Assembly :=
  match json, assembly.frames with
  | .string name, .object members _ :: frames =>
    some { assembly with frames := .object members name :: frames, expected := .colon }
  | _, _ => none

def Assembly.takeValue (assembly : Assembly) (token : Token) : Option Assembly :=
  match token with
  | .value json => some (assembly.complete json)
  | .openArray =>
    some { assembly with frames := .array [] :: assembly.frames, expected := .firstItem }
  | .openObject =>
    some { assembly with frames := .object [] [] :: assembly.frames, expected := .firstName }
  | _ => none

def Assembly.take (assembly : Assembly) (token : Token) : Option Assembly :=
  match assembly.expected, token with
  | .firstItem, .closeArray => assembly.close token
  | .value, _ => assembly.takeValue token
  | .firstItem, _ => assembly.takeValue token
  | .firstName, .closeObject => assembly.close token
  | .firstName, .value json => assembly.takeName json
  | .name, .value json => assembly.takeName json
  | .colon, .colon => some { assembly with expected := .value }
  | .separator, .comma =>
    match assembly.frames with
    | .array _ :: _ => some { assembly with expected := .value }
    | .object _ _ :: _ => some { assembly with expected := .name }
    | [] => none
  | .separator, _ => assembly.close token
  | _, _ => none

/-- Reads the tokens of a text. Each token takes a character at least, so a text's length is enough
fuel. -/
def assemble : Nat → Assembly → List Char → Option Assembly
  | 0, assembly, _ => some assembly
  | fuel + 1, assembly, characters =>
    match characters with
    | [] => some assembly
    | character :: rest =>
      if isSpace character then assemble fuel assembly rest
      else match readToken characters with
        | none => none
        | some (token, rest) =>
          match assembly.take token with
          | some assembly => assemble fuel assembly rest
          | none => none

def read (text : String) : Option Json := do
  let characters := text.toList
  let assembly ← assemble characters.length {} characters
  if assembly.frames.isEmpty then assembly.result else none

end ScriptedShell.Json
