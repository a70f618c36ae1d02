import ScriptedShell.Script.Language
import ScriptedShell.Script.ShellCall

/-!
Calling the functions that are not written in script: those that objects, errors, arrays and boxed
values have from the language, and those that act on the shell.
-/

namespace ScriptedShell.Script

namespace BuiltinCall

def notAnObject {α : Type} : Action α :=
  Action.typeError "not an object"

def notConvertible {α : Type} : Action α :=
  Action.typeError "cannot convert to object"

def box (value : Value) : Action Value := do
  match value with
  | .object _ => return value
  | value =>
    match Member.holder? value with
    | none => notConvertible
    | some prototype =>
      let properties := match value with
        | .text units => [(PropertyKey.named "length", Property.constant (.ofNat units.length))]
        | _ => []
      Action.allocate { objectClass := .boxed value, prototype := some prototype, properties }

def plainTag (engine : Engine) : Value → String
  | .undefined => "Undefined"
  | .null => "Null"
  | .boolean _ => "Boolean"
  | .number _ _ => "Number"
  | .text _ => "String"
  | .bigint _ | .symbol _ => "Object"
  | .object id => (engine.object id).tag

def objectText (call : Caller) (value : Value) : Action Value := do
  let plain ← Action.inspect fun engine => Utf16.encode (plainTag engine value)
  let tag ←
    if value.isNullish then pure plain
    else
      match ← Member.read call value (.known "toStringTag") with
      | .text units => pure units
      | _ => pure plain
  return .text (Utf16.encode "[object " ++ tag ++ Utf16.encode "]")

def localText (call : Caller) (receiver : Value) : Action Value := do
  call (← Member.readNamed call receiver "toString") receiver []

def ownProperty (call : Caller) (receiver keyValue : Value) : Action (Option Property) := do
  match ← box receiver with
  | .object id =>
    let key ← Convert.key call keyValue
    Member.own? id key
  | _ => return none

def isPrototypeOf (receiver value : Value) : Action Value := do
  match value with
  | .object id =>
    match ← box receiver with
    | .object ancestor =>
      return .boolean (← Action.inspect fun engine =>
        (engine.object id).prototype.any (engine.inherits · ancestor))
    | _ => return .boolean false
  | _ => return .boolean false

def readPrototype (receiver : Value) : Action Value := do
  match receiver with
  | .object id =>
    return ((← Action.object id).prototype.map Value.object).getD .null
  | plain =>
    match Member.holder? plain with
    | some prototype => return .object prototype
    | none => notConvertible

def writePrototype (receiver prototype : Value) : Action Value := do
  if receiver.isNullish then notAnObject
  else
    match receiver, prototype with
    | .object id, .object parent => Member.setPrototype id (some parent)
    | .object id, .null => Member.setPrototype id none
    | _, _ => pure ()
    return .undefined

def causeOf (call : Caller) (options : Value) : Action (List (PropertyKey × Property)) := do
  match options with
  | .object id =>
    if (← Member.find? id (.named "cause")).isSome then
      return [(.named "cause", .hidden (← Member.readNamed call options "cause"))]
    else return []
  | _ => return []

/-- A new error. Its trace does not show the function that makes it. -/
def makeError (call : Caller) (kind : ErrorKind) (message options : Value) : Action Value := do
  let described ← match message with
    | .undefined => pure []
    | message => do
      let text ← Convert.text call message
      pure [(PropertyKey.named "message", Property.hidden (.text text))]
  let cause ← causeOf call options
  Action.makeFailure kind (described ++ cause) (← Action.runningFrames).tail

def memberText (call : Caller) (object : Value) (name missing : String) : Action Units := do
  match ← Member.readNamed call object name with
  | .undefined => pure (Utf16.encode missing)
  | value => Convert.text call value

def errorText (call : Caller) (error : Value) : Action Value := do
  match error with
  | .object _ =>
    let name ← memberText call error "name" "Error"
    let message ← memberText call error "message" ""
    let separator := if name.isEmpty || message.isEmpty then [] else Utf16.encode ": "
    return .text (name ++ separator ++ message)
  | _ => notAnObject

def functionText (call : Caller) (function : Value) : Action Value := do
  match function with
  | .object id =>
    match (← Action.object id).objectClass with
    | .function closure => return .ofString closure.head.text
    | .builtin _ =>
      let name ← memberText call function "name" ""
      return .text
        (Utf16.encode "function " ++ name ++ Utf16.encode "() \x7b\n    [native code]\n\x7d")
    | _ => Action.typeError "not a function"
  | _ => Action.typeError "not a function"

def ofScript (function : Value) (told : Closure → Value) : Action Value := do
  match function with
  | .object id =>
    match (← Action.object id).objectClass with
    | .function closure => return told closure
    | _ => return .undefined
  | _ => return .undefined

/-- An array of the arguments, or of as many missing items as a single number says. -/
def arrayOf (arguments : List Value) : Action Value := do
  match arguments with
  | [.number number _] =>
    let length ← ArrayLength.orInvalid (ArrayLength.ofFloat? number)
    let array ← makeArray []
    match array with
    | .object id =>
      Action.change (·.alter id (ArrayLength.set length))
    | _ => pure ()
    return array
  | items => makeArray items

/-- The texts of an object's items in a row. Missing items and `null` have none. -/
def joinItems (call : Caller) (object separator : Value) : Action Value := do
  if object.isNullish then notConvertible
  else
    let count ← Convert.count call (← Member.readNamed call object "length")
    let separator ← match separator with
      | .undefined => pure (Utf16.encode ",")
      | separator => Convert.text call separator
    let texts ← Action.mapItems
      (fun index => do
        let item ← Member.read call object (.ofIndex index)
        if item.isNullish then pure [] else Convert.text call item)
      (List.range count)
    return .text (separator.intercalate texts)

def arrayText (call : Caller) (object : Value) : Action Value := do
  if object.isNullish then notConvertible
  else
    let join ← Member.readNamed call object "join"
    if ← Action.isCallable join then call join object [] else objectText call object

def keys (object : Value) : Action Value := do
  match ← box object with
  | .object id =>
    makeArray ((Member.enumerableNames (← Action.object id)).map Value.text)
  | _ => makeArray []

def defineMember (call : Caller) (object keyValue description : Value) : Action Value := do
  match object with
  | .object id =>
    let key ← Convert.key call keyValue
    let getter ← Member.readNamed call description "get"
    match getter with
    | .undefined => Member.defineGetter id key none
    | .object function =>
      if ← Action.isCallable getter then Member.defineGetter id key (some function)
      else Action.typeError "invalid getter"
    | _ => Action.typeError "invalid getter"
    return object
  | _ => notAnObject

def createObject (prototype : Value) : Action Value :=
  match prototype with
  | .null => Action.allocate { objectClass := .plain, prototype := none }
  | .object id => Action.allocate { objectClass := .plain, prototype := some id }
  | _ => Action.typeError "not a prototype"

def makeObject (value : Value) : Action Value :=
  if value.isNullish then
    Action.allocate { objectClass := .plain, prototype := some Intrinsic.objectPrototype }
  else box value

def makeSymbol (call : Caller) (description : Value) : Action Value := do
  let description ← match description with
    | .undefined => pure none
    | description => do pure (some (← Convert.text call description))
  let id ← Action.inspect Engine.nextSymbol
  Action.change fun engine => { engine with nextSymbol := id + 1 }
  return .symbol ⟨id, description⟩

def plainValue (kind : PlainKind) (receiver : Value) : Action Value := do
  let plain ← match receiver with
    | .object id => do
      match (← Action.object id).objectClass with
      | .boxed value => pure value
      | _ => pure .undefined
    | plain => pure plain
  match kind, plain with
  | .text, .text _ | .number, .number _ _ | .boolean, .boolean _ | .symbol, .symbol _
  | .bigint, .bigint _ => return plain
  | _, _ => Action.typeError ("not a " ++ kind.name)

def describe (call : Caller) (value : Value) : Action Value := do
  match value with
  | .symbol mark =>
    return .text (Utf16.encode "Symbol(" ++ mark.description.getD [] ++ Utf16.encode ")")
  | value => return .text (← Convert.text call value)

def makeNumber (call : Caller) (arguments : List Value) : Action Value := do
  match arguments with
  | [] => return .ofNat 0
  | value :: _ =>
    match ← Convert.numeric call value with
    | .bigint whole => return .number (Float.ofInt whole) .general
    | number => return number

def describeSymbol (receiver : Value) : Action Value := do
  match ← plainValue .symbol receiver with
  | .symbol mark => return (mark.description.map Value.text).getD .undefined
  | _ => return .undefined

end BuiltinCall

def callBuiltin [Library] (call : Caller) (builtin : Builtin) (receiver : Value) (arguments : List Value) :
    Action Value :=
  let first := ShellCall.argument arguments 0
  match builtin with
  | .shell function => ShellCall.run call function arguments
  | .print => do
    let line ← ShellCall.joinedText call arguments
    Action.ask (.print line)
    return .undefined
  | .console level => do
    let line ← ShellCall.joinedText call arguments
    Action.ask (.log level line)
    return .undefined
  | .makeError kind =>
    BuiltinCall.makeError call kind first (ShellCall.argument arguments 1)
  | .errorText => BuiltinCall.errorText call receiver
  | .makeObject => BuiltinCall.makeObject first
  | .keys => BuiltinCall.keys first
  | .defineMember =>
    BuiltinCall.defineMember call first (ShellCall.argument arguments 1)
      (ShellCall.argument arguments 2)
  | .createObject => BuiltinCall.createObject first
  | .objectText => BuiltinCall.objectText call receiver
  | .localText => BuiltinCall.localText call receiver
  | .asObject => BuiltinCall.box receiver
  | .hasOwn => do
    return .boolean (← BuiltinCall.ownProperty call receiver first).isSome
  | .isEnumerable => do
    return .boolean ((← BuiltinCall.ownProperty call receiver first).any Property.enumerable)
  | .isPrototypeOf => BuiltinCall.isPrototypeOf receiver first
  | .readPrototype => BuiltinCall.readPrototype receiver
  | .writePrototype => BuiltinCall.writePrototype receiver first
  | .refuse => Action.typeError "invalid property access"
  | .functionText => BuiltinCall.functionText call receiver
  | .sourceName => BuiltinCall.ofScript receiver fun _ => .ofString Engine.sourceName
  | .sourceLine => BuiltinCall.ofScript receiver fun closure => .ofNat closure.head.line
  | .callFunction => call receiver first (arguments.drop 1)
  | .makeArray => BuiltinCall.arrayOf arguments
  | .arrayText => BuiltinCall.arrayText call receiver
  | .joinItems => BuiltinCall.joinItems call receiver first
  | .makeNumber => BuiltinCall.makeNumber call arguments
  | .makeText =>
    match arguments with
    | [] => pure (.text [])
    | value :: _ => BuiltinCall.describe call value
  | .makeBoolean => pure (.boolean first.truthy)
  | .makeSymbol => BuiltinCall.makeSymbol call first
  | .describeSymbol => BuiltinCall.describeSymbol receiver
  | .plainText kind => do
    BuiltinCall.describe call (← BuiltinCall.plainValue kind receiver)
  | .plainValue kind => BuiltinCall.plainValue kind receiver
  | .resolvePromise =>
    Action.allocate { objectClass := .plain, prototype := some Intrinsic.promisePrototype }
  | .idle => pure .undefined
  | .other name => Library.call call name receiver arguments

end ScriptedShell.Script
