import ScriptedShell.Script.Assignment

/-!
Calling the functions that act on the shell. A function converts its arguments from left to right
before it asks the host for anything.
-/

namespace ScriptedShell.Script.ShellCall

def argument (arguments : List Value) (index : Nat) : Value :=
  arguments.getD index .undefined

def givenType (engine : Engine) : Value → String
  | .bigint _ => "big_int"
  | value => engine.hostTypeOf value

def conversionError {α : Type} (value : Value) (wanted : String) : Action α := do
  let given ← Action.inspect (givenType · value)
  Action.typeError ("Error converting from js '" ++ given ++ "' into type '" ++ wanted ++ "'")

def wantObject (value : Value) : Action Value :=
  match value with
  | .object _ => pure value
  | _ => conversionError value "object"

def wantFunction (value : Value) : Action Value := do
  if ← Action.isCallable value then pure value else conversionError value "function"

/-- An object without a prototype, made by the global object's `Object.create`. -/
def bareObject (call : Caller) : Action Value := do
  let holder ← wantObject (← Member.readNamed call (.object Intrinsic.global) "Object")
  let create ← wantFunction (← Member.readNamed call holder "create")
  wantObject (← call create .undefined [.null])

def ofFault {α : Type} : Except Fault α → Action α
  | .ok result => pure result
  | .error fault => do
    let message := Property.plain (.ofString fault.message)
    Action.throwValue
      (← Action.makeFailure .error [(.named "message", message)] (← Action.runningFrames))

def requireHost : Action Unit := do
  ofFault (← Action.ask .presence)

def run (call : Caller) (function : ShellFunction) (arguments : List Value) :
    Action Value := do
  if arguments.length < function.required then
    Action.typeError
      ("Error calling function with " ++ toString arguments.length ++ " argument(s) while "
        ++ toString function.required ++ " where expected")
  else
    match function with
    | .register =>
      let name ← Convert.hostText call (argument arguments 0)
      requireHost
      ofFault (← Action.ask (.register name))
      return .undefined
    | .getVariable =>
      let name ← Convert.hostText call (argument arguments 0)
      requireHost
      match ← Action.ask (.getVariable name) with
      | some value => return .ofString value
      | none => return .undefined
    | .setVariable =>
      let name ← Convert.hostText call (argument arguments 0)
      let value ← Convert.hostText call (argument arguments 1)
      requireHost
      Action.ask (.setVariable name value)
      return .undefined
    | .getEnvironment =>
      requireHost
      let object ← bareObject call
      let entries ← Action.ask .environment
      Action.forItems
        (fun (name, value) =>
          Member.assign call object (.named name)
            ((value.map Value.ofString).getD .undefined)) entries
      return object
    | .call =>
      let words ← Action.mapItems (Convert.hostText call) arguments
      requireHost
      let status ← ofFault (← Action.ask (.call words))
      return .ofFloat status.toFloat

def joinedText (call : Caller) (arguments : List Value) : Action String := do
  return " ".intercalate (← Action.mapItems (Convert.hostText call) arguments)

end ScriptedShell.Script.ShellCall
