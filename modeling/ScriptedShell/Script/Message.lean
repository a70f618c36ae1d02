import ScriptedShell.Text.Utf16

/-!
Messages of the errors that an engine throws. A message is made in a buffer of bytes that ends at a
zero byte: a name with characters beyond ASCII goes through a small one, and the whole message
through a larger one.
-/

namespace ScriptedShell.Script.Message

def nameLimit : Nat := 58

/-- The bytes of a message that are kept. Only ASCII names can be long enough to matter. -/
def lengthLimit : Nat := 255

def byteCount (unit : UInt16) : Nat :=
  if unit < 0x80 then 1 else if unit < 0x800 then 2 else 3

def isAscii (units : Units) : Bool :=
  units.all fun unit => unit < 0x80

def cutName (written : Nat) : Units → Units
  | [] => []
  | unit :: rest =>
    if written < nameLimit then unit :: cutName (written + byteCount unit) rest else []

def shownName (name : Units) : Units :=
  (if isAscii name then name else cutName 0 name).takeWhile (· ≠ 0)

def about (before : String) (name : Units) (after : String) : Units :=
  (Utf16.encode before ++ shownName name ++ Utf16.encode after).take lengthLimit

end ScriptedShell.Script.Message
