import ScriptedShell.Toml

/-!
Writing TOML strings. The quotes are chosen so that as little as possible has to be escaped, and
escapes are left to the double quotes.
-/

namespace ScriptedShell.Toml

structure Traits where
  hasLineEnd : Bool
  hasControl : Bool
  hasBackslash : Bool
  doubleQuotes : Nat
  singleQuotes : Nat
deriving DecidableEq, Repr

def isControl (character : Char) : Bool :=
  (character.toNat < 0x20 && character != '\n' && character != '\t') || character.toNat == 0x7F

def longestRun (mark : Char) (characters : List Char) : Nat :=
  (characters.foldl
    (fun (current, longest) character =>
      if character = mark then (current + 1, max longest (current + 1)) else (0, longest))
    (0, 0)).2

def traits (characters : List Char) : Traits where
  hasLineEnd := characters.contains '\n'
  hasControl := characters.any isControl
  hasBackslash := characters.contains '\\'
  doubleQuotes := longestRun '"' characters
  singleQuotes := longestRun '\'' characters

inductive Quotes where
  | double
  | single
  | tripleDouble
  | tripleSingle
deriving DecidableEq, Repr

def chooseQuotes (traits : Traits) : Quotes :=
  if !traits.hasLineEnd && !traits.hasControl && !traits.hasBackslash && traits.doubleQuotes == 0 then
    .double
  else if !traits.hasLineEnd && !traits.hasControl && traits.singleQuotes == 0 then .single
  else if !traits.hasControl && !traits.hasBackslash && traits.doubleQuotes ≤ 2 then .tripleDouble
  else if !traits.hasControl && traits.singleQuotes ≤ 2 then .tripleSingle
  else if traits.hasLineEnd then .tripleDouble
  else .double

def hexDigit (value : Nat) : Char :=
  if value < 10 then Char.ofNat ('0'.toNat + value) else Char.ofNat ('A'.toNat + value - 10)

def codeEscape (character : Char) : String :=
  "\\u00" ++ String.ofList [hexDigit (character.toNat / 16), hexDigit (character.toNat % 16)]

def writeChar (character : Char) : String :=
  match character with
  | '\x08' => "\\b"
  | '\t' => "\\t"
  | '\x0c' => "\\f"
  | '\r' => "\\r"
  | '\\' => "\\\\"
  | character => if isControl character then codeEscape character else character.toString

def writeLine : List Char → String
  | [] => ""
  | '"' :: rest => "\\\"" ++ writeLine rest
  | '\n' :: rest => "\\n" ++ writeLine rest
  | character :: rest => writeChar character ++ writeLine rest

/-- The inside of three pairs of double quotes, after `quotes` double quotes in a row. The third in a
row is escaped. -/
def writeLines (quotes : Nat) : List Char → String
  | [] => ""
  | '"' :: rest =>
    if quotes = 2 then "\\\"" ++ writeLines 0 rest else "\"" ++ writeLines (quotes + 1) rest
  | '\n' :: rest => "\n" ++ writeLines 0 rest
  | character :: rest => writeChar character ++ writeLines 0 rest

def writeString (text : String) : String :=
  let characters := text.toList
  let traits := traits characters
  let opening := if traits.hasLineEnd then "\n" else ""
  match chooseQuotes traits with
  | .double => "\"" ++ writeLine characters ++ "\""
  | .single => "'" ++ text ++ "'"
  | .tripleDouble => "\"\"\"" ++ opening ++ writeLines 0 characters ++ "\"\"\""
  | .tripleSingle => "'''" ++ opening ++ text ++ "'''"

end ScriptedShell.Toml
