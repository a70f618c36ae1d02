/-!
Texts as 16-bit code units, the form in which scripts count and compare them. Every text has such a
form; a sequence of units is a text unless it holds half of a pair alone.
-/

namespace ScriptedShell

abbrev Units := List UInt16

namespace Utf16

def supplementary : Nat := 0x10000

def encodeChar (character : Char) : Units :=
  let code := character.toNat
  if code < supplementary then [UInt16.ofNat code]
  else
    [UInt16.ofNat (0xD800 + (code - supplementary) / 1024),
      UInt16.ofNat (0xDC00 + (code - supplementary) % 1024)]

def encode (text : String) : Units :=
  text.toList.flatMap encodeChar

def isLeading (unit : UInt16) : Bool :=
  0xD800 ≤ unit.toNat && unit.toNat < 0xDC00

def isTrailing (unit : UInt16) : Bool :=
  0xDC00 ≤ unit.toNat && unit.toNat < 0xE000

def pairValue (leading trailing : UInt16) : Char :=
  Char.ofNat (supplementary + (leading.toNat - 0xD800) * 1024 + (trailing.toNat - 0xDC00))

def decodePrefix : Units → List Char × Units
  | [] => ([], [])
  | [unit] =>
    if isLeading unit || isTrailing unit then ([], [unit]) else ([Char.ofNat unit.toNat], [])
  | unit :: next :: rest =>
    if isLeading unit then
      if isTrailing next then
        let (characters, undecoded) := decodePrefix rest
        (pairValue unit next :: characters, undecoded)
      else ([], unit :: next :: rest)
    else if isTrailing unit then ([], unit :: next :: rest)
    else
      let (characters, undecoded) := decodePrefix (next :: rest)
      (Char.ofNat unit.toNat :: characters, undecoded)

/-- The text of a sequence of units, or the number of UTF-8 bytes before the first half that stands
alone. -/
def decode (units : Units) : Except Nat String :=
  match decodePrefix units with
  | (characters, []) => .ok (String.ofList characters)
  | (characters, _ :: _) => .error (String.ofList characters).utf8ByteSize

end Utf16

end ScriptedShell
