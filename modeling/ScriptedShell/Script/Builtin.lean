import ScriptedShell.Script.Value

/-!
Functions that are not written in script: those of the language, and those that let a script act on
the shell and its console.
-/

namespace ScriptedShell.Script

inductive ErrorKind where
  | error
  | rangeError
  | referenceError
  | syntaxError
  | typeError
  | internalError
  | evalError
  | uriError
deriving DecidableEq, Repr, Inhabited

def ErrorKind.name : ErrorKind → String
  | .error => "Error"
  | .rangeError => "RangeError"
  | .referenceError => "ReferenceError"
  | .syntaxError => "SyntaxError"
  | .typeError => "TypeError"
  | .internalError => "InternalError"
  | .evalError => "EvalError"
  | .uriError => "URIError"

inductive ConsoleLevel where
  | info
  | warn
  | error
deriving DecidableEq, Repr, Inhabited

def ConsoleLevel.name : ConsoleLevel → String
  | .info => "info"
  | .warn => "warn"
  | .error => "error"

inductive ShellFunction where
  | register
  | getVariable
  | setVariable
  | getEnvironment
  | call
deriving DecidableEq, Repr, Inhabited

def ShellFunction.required : ShellFunction → Nat
  | .register => 1
  | .getVariable => 1
  | .setVariable => 2
  | .getEnvironment => 0
  | .call => 0

inductive PlainKind where
  | text
  | number
  | boolean
  | symbol
  | bigint
deriving DecidableEq, Repr, Inhabited

def PlainKind.name : PlainKind → String
  | .text => "string"
  | .number => "number"
  | .boolean => "boolean"
  | .symbol => "symbol"
  | .bigint => "bigint"

inductive Builtin where
  | shell (function : ShellFunction)
  | print
  | console (level : ConsoleLevel)
  | makeError (kind : ErrorKind)
  | errorText
  | makeObject
  | keys
  | defineMember
  | createObject
  | objectText
  | localText
  | asObject
  | hasOwn
  | isEnumerable
  | isPrototypeOf
  | readPrototype
  | writePrototype
  /-- Throws whatever it is called with. -/
  | refuse
  | functionText
  | sourceName
  | sourceLine
  | callFunction
  | makeArray
  | arrayText
  | joinItems
  | makeNumber
  | makeText
  | makeBoolean
  | makeSymbol
  | describeSymbol
  /-- The text of a receiver that is a boxed value or a value to box. -/
  | plainText (kind : PlainKind)
  /-- The value of such a receiver. -/
  | plainValue (kind : PlainKind)
  | resolvePromise
  | idle
  /-- A function of the language that no script here calls. -/
  | other (name : String)
deriving DecidableEq, Repr, Inhabited

namespace Builtin

/-- Whether a function makes objects. Those of the language do if their names are capital. -/
def constructs : Builtin → Bool
  | makeError _ | makeObject | makeArray | makeNumber | makeText | makeBoolean | makeSymbol => true
  | other name => name.toList.head?.any Char.isUpper
  | _ => false

def required : Builtin → Nat
  | shell function => function.required
  | _ => 0

/-- Whether a function is the host's own. Such a function is not among those that run. -/
def isForeign : Builtin → Bool
  | shell _ | print | console _ => true
  | _ => false

end Builtin

end ScriptedShell.Script
