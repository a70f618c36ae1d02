import ScriptedShell.Script.BuiltinCall
import ScriptedShell.Script.Naming

/-!
Running scripts. The first argument of `evaluate`, `execute` and `invoke` bounds how deeply they may
nest; a script that nests deeper is stopped by an error, and neither the length of a list nor the
number of turns of a loop counts.
-/

namespace ScriptedShell.Script

/-- How a statement ends: the next one follows, or the function answers. -/
inductive Flow where
  | next
  | answered (value : Value)

def nestingLimit : Nat := 5000

def turnLimit : Nat := Nat.pow 2 53

def tooDeep {α : Type} : Action α :=
  Action.fail .internalError (Utf16.encode "stack overflow")

namespace Evaluation

open Naming

def literalValue : Literal → Value
  | .undefined => .undefined
  | .null => .null
  | .boolean value => .boolean value
  | .number value => .ofFloat value
  | .bigint value => .bigint value
  | .text units => .text units

def makeFunction (name : Units) (closure : Closure) : Action Value := do
  let function ← Action.allocate
    { objectClass := .function closure
      prototype := some Intrinsic.functionPrototype
      properties :=
        [(.named "length", .settled (.ofNat closure.head.parameters.length)),
          (.named "name", .settled (.text name))] }
  if closure.head.kind = .ordinary then
    let prototype ← Action.allocate
      { objectClass := .plain
        prototype := some Intrinsic.objectPrototype
        properties := [(.named "constructor", .hidden function)] }
    match function with
    | .object id =>
      Action.change (·.put id (.named "prototype") ⟨.value prototype true, false, false⟩)
    | _ => pure ()
  return function

def makeArguments (arguments : List Value) : Action Value :=
  Action.allocate
    { objectClass := .arguments
      prototype := some Intrinsic.objectPrototype
      properties := itemProperties arguments ++
        [(.named "length", .hidden (.ofNat arguments.length)),
          (.known "iterator", .hidden (.object Intrinsic.items)),
          (.named "callee", .forbidden false)] }

def defineFunctions (scopes : List ScopeId) (declarations : List Declaration) : Action Unit :=
  Action.forItems
    (fun declaration =>
      match declaration with
      | .function name head body => do
        let function ← makeFunction (Utf16.encode name) ⟨head, body, scopes⟩
        settle scopes name function
      | _ => pure ()) declarations

def enter (scopes : List ScopeId) (declarations : List Declaration) (scope : Scope) :
    Action (List ScopeId) := do
  let id ← Action.openScope (wideScope declarations (lexicalScope declarations ++ scope))
  defineFunctions (id :: scopes) declarations
  return id :: scopes

def runAll (run : Statement → Action Flow) : List Statement → Action Flow
  | [] => pure .next
  | statement :: rest => do
    match ← run statement with
    | .next => runAll run rest
    | .answered value => return .answered value

def runBlock (run : List ScopeId → Statement → Action Flow) (scopes : List ScopeId)
    (statements : List Statement) : Action Flow := do
  let scopes ← enter scopes (blockDeclarations statements) []
  runAll (run scopes) statements

inductive Turn where
  | again (counter : Value)
  | stop (flow : Flow)

def iterate (turn : Value → Action Turn) : Nat → Value → Action Flow
  | 0, _ => tooDeep
  | steps + 1, counter => do
    match ← turn counter with
    | .again counter => iterate turn steps counter
    | .stop flow => return flow

def increment (call : Caller) (counter : Value) : Action Value := do
  match ← Convert.numeric call counter with
  | .bigint whole => return .bigint (whole + 1)
  | .number number form => return .sum number form 1.0 .whole
  | _ => return .undefined

/-- One turn of a counting loop. Each turn has a counter of its own, which starts with the value that
the former turn left. -/
def countTurn (call : Caller) (name : String) (limit : List ScopeId → Action Value)
    (body : List ScopeId → Action Flow) (scopes : List ScopeId) (counter : Value) :
    Action Turn := do
  let id ← Action.openScope [(name, ⟨some counter, false⟩)]
  let bound ← limit (id :: scopes)
  if ← Convert.lessThan call (← current id) bound then
    match ← body (id :: scopes) with
    | .answered value => return .stop (.answered value)
    | .next => return .again (← increment call (← current id))
  else return .stop .next
where
  current (id : ScopeId) : Action Value :=
    Action.inspect fun engine =>
      ((engine.findBinding name [id]).bind (·.2.value)).getD .undefined

def constructedPrototype (call : Caller) (function : Value) : Action ObjectId := do
  match ← Member.readNamed call function "prototype" with
  | .object id => return id
  | _ => return Intrinsic.objectPrototype

def construct [Library] (call : Caller) (function : Value) (arguments : List Value) : Action Value := do
  match function with
  | .object id =>
    let object ← Action.object id
    if object.isConstructor then
      match object.objectClass with
      | .function _ =>
        let prototype ← constructedPrototype call function
        let created ← Action.allocate
          { objectClass := .plain, prototype := some prototype }
        match ← call function created arguments with
        | .object id => return .object id
        | _ => return created
      | .builtin (.other name) =>
        Action.inFrame (.function id) (Library.construct call name arguments)
      | _ => call function .undefined arguments
    else Action.typeError "not a constructor"
  | _ => Action.typeError "not a function"

def addMember (object : Value) (key : PropertyKey) (property : Property) : Action Unit :=
  match object with
  | .object id => Action.change (·.put id key property)
  | _ => pure ()

def addGetter (object : Value) (key : PropertyKey) (function : Value) : Action Unit :=
  match function with
  | .object getter => addMember object key ⟨.accessor (some getter) none, true, true⟩
  | _ => pure ()

def parameterScope (parameters : List String) (arguments : List Value) : Scope :=
  parameters.zipIdx.map fun (name, index) =>
    (name, ⟨some (ShellCall.argument arguments index), false⟩)

end Evaluation

open Evaluation Naming

variable [Library]

mutual

def evaluate : Nat → List ScopeId → Expression → Action Value
  | 0, _, _ => tooDeep
  | fuel + 1, scopes, expression =>
    let call : Caller := invoke fuel
    let value := evaluate fuel scopes
    match expression with
    | .literal literal => pure (literalValue literal)
    | .name name => readName call scopes name (notDefined name)
    | .array items => do makeArray (← Action.mapItems value items)
    | .object entries => do
      let object ← Action.allocate
        { objectClass := .plain, prototype := some Intrinsic.objectPrototype }
      Action.forItems (fun entry => addEntry fuel scopes object entry) entries
      return object
    | .function head body => makeFunction [] ⟨head, body, scopes⟩
    | .add left right => do
      let left ← value left
      let right ← value right
      Convert.add call left right
    | .subtract left right => do
      let left ← value left
      let right ← value right
      Convert.subtract call left right
    | .strictlyEqual left right => do
      let left ← value left
      let right ← value right
      return .boolean (left.strictlyEquals right)
    | .lessThan left right => do
      let left ← value left
      let right ← value right
      return .boolean (← Convert.lessThan call left right)
    | .not operand => do return .boolean !(← value operand).truthy
    | .negate operand => do Convert.negate call (← value operand)
    | .typeOf operand => do
      let result ← match operand with
        | .name name => readName call scopes name (pure .undefined)
        | operand => value operand
      return .ofString (← Action.inspect (·.typeOf result))
    | .member object key => do
      let object ← value object
      let key ← value key
      readMember fuel object key
    | .hasMember key object => do
      let key ← value key
      let object ← value object
      return .boolean (← Convert.hasMember call key object)
    | .call callee arguments => do
      let (receiver, function) ← match callee with
        | .member object key => do
          let object ← value object
          let key ← value key
          let function ← readMember fuel object key
          pure (object, function)
        | callee => do
          let function ← value callee
          pure (Value.undefined, function)
      let arguments ← Action.mapItems value arguments
      call function receiver arguments
    | .construct callee arguments => do
      let function ← value callee
      let arguments ← Action.mapItems value arguments
      construct call function arguments

def readMember : Nat → Value → Value → Action Value
  | 0, _, _ => tooDeep
  | fuel + 1, object, keyValue =>
    let call : Caller := invoke fuel
    do
      let key ← Convert.key call keyValue
      Member.read call object key

def addEntry : Nat → List ScopeId → Value → Entry → Action Unit
  | 0, _, _, _ => tooDeep
  | fuel + 1, scopes, object, entry =>
    let call : Caller := invoke fuel
    match entry with
    | .value key expression => do
      let key ← Convert.key call (← evaluate fuel scopes key)
      let value ← evaluateNamed fuel scopes key.functionName expression
      addMember object key (.plain value)
    | .getter key head body => do
      let key ← Convert.key call (← evaluate fuel scopes key)
      let function ← makeFunction (Utf16.encode "get " ++ key.shown) ⟨head, body, scopes⟩
      addGetter object key function

def evaluateNamed : Nat → List ScopeId → Units → Expression → Action Value
  | 0, _, _, _ => tooDeep
  | fuel + 1, scopes, name, expression =>
    match expression with
    | .function head body => makeFunction name ⟨head, body, scopes⟩
    | expression => evaluate fuel scopes expression

def execute : Nat → List ScopeId → Statement → Action Flow
  | 0, _, _ => tooDeep
  | fuel + 1, scopes, statement =>
    let call : Caller := invoke fuel
    let value := evaluate fuel scopes
    let block := runBlock (execute fuel)
    match statement with
    | .evaluate expression => do
      let _ ← value expression
      return .next
    | .answer expression => do return .answered (← value expression)
    | .raise expression => do Action.raise (← value expression)
    | .declare .wide name expression | .assign name expression => do
      let known ← mayAssign scopes name
      let value ← evaluateNamed fuel scopes (Utf16.encode name) expression
      if known then
        assignName call scopes name value
        return .next
      else notDefined name
    | .declare _ name expression => do
      let value ← evaluateNamed fuel scopes (Utf16.encode name) expression
      settle scopes name value
      return .next
    | .setMember object key expression => do
      let object ← value object
      let key ← value key
      let value ← value expression
      let key ← Convert.key call key
      Member.assign call object key value
      return .next
    | .deleteMember object key => do
      let object ← value object
      let key ← Convert.key call (← value key)
      Member.delete object key
      return .next
    | .function _ _ _ => pure .next
    | .branch condition whenTrue whenFalse => do
      if (← value condition).truthy then block scopes whenTrue else block scopes whenFalse
    | .attempt body caught handler => do
      match ← Action.outcome (block scopes body) with
      | .value flow => return flow
      | .thrown thrown =>
        let names := caught.toList.map fun name => (name, ⟨some thrown, false⟩)
        let id ← Action.openScope names
        block (id :: scopes) handler
    | .count counter limit body =>
      iterate
        (countTurn call counter (fun scopes => evaluate fuel scopes limit)
          (fun scopes => runBlock (execute fuel) scopes body) scopes)
        turnLimit (.ofNat 0)

def invoke : Nat → Value → Value → List Value → Action Value
  | 0, _, _, _ => tooDeep
  | fuel + 1, function, receiver, arguments => do
    match function with
    | .object id =>
      match (← Action.object id).objectClass with
      | .function closure =>
        Action.inFrame (.function id) do
          let scope ← if closure.head.kind = .arrow then pure [] else do
            let object ← makeArguments arguments
            pure [("arguments", ⟨some object, false⟩)]
          let parameters := parameterScope closure.head.parameters arguments
          let scopes ← enter closure.scopes (declarationsOf closure.body) (parameters ++ scope)
          match ← runAll (execute fuel scopes) closure.body with
          | .next => return .undefined
          | .answered value => return value
      | .builtin builtin =>
        let answer := callBuiltin (invoke fuel) builtin receiver arguments
        if builtin.isForeign then answer else Action.inFrame (.function id) answer
      | _ => Action.typeError "not a function"
    | _ => Action.typeError "not a function"

end

end ScriptedShell.Script
