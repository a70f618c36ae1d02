import ScriptedShell.Text.Unprintable

/-!
Texts between double quotes, as messages show them. Quotes and backslashes are escaped, and so is
what could not be seen.
-/

namespace ScriptedShell.Quoted

def hexText (number : Nat) : String :=
  String.ofList (Nat.toDigits 16 number)

def writeChar (character : Char) : String :=
  if character = '"' then "\\\""
  else if character = '\\' then "\\\\"
  else if character = '\x00' then "\\0"
  else if character = '\t' then "\\t"
  else if character = '\n' then "\\n"
  else if character = '\r' then "\\r"
  else if isUnprintable character then "\\u\x7b" ++ hexText character.toNat ++ "\x7d"
  else character.toString

def write (text : String) : String :=
  "\"" ++ String.join (text.toList.map writeChar) ++ "\""

end ScriptedShell.Quoted
