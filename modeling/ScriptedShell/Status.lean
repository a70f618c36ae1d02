/-!
Exit statuses: 32-bit numbers, zero for success. A script's number becomes a status by dropping its
fraction and clamping, and a process reports a status modulo 256.
-/

namespace ScriptedShell

abbrev Status := Int32

namespace Status

def success : Status := 0

def failure : Status := 1

def notExecutable : Status := 126

def notFound : Status := 127

def endedBySignal (signal : Nat) : Status :=
  Int32.ofNat (128 + signal)

def inverted (status : Status) : Status :=
  if status = success then failure else success

/-- Truncates toward zero and clamps to 32 bits; a NaN is zero. -/
def ofFloat (number : Float) : Status :=
  if number < 0 then Int32.ofIntClamp (-(-number).toUInt32.toNat)
  else Int32.ofIntClamp number.toUInt32.toNat

def toFloat (status : Status) : Float :=
  Float.ofInt status.toInt

def text (status : Status) : String :=
  toString status.toInt

def processCode (status : Status) : UInt8 :=
  UInt8.ofNat (status.toInt % 256).toNat

end Status

end ScriptedShell
