import ScriptedShell.Script.Builtin
import ScriptedShell.Script.Tree

/-!
Objects of scripts and their properties. The objects that every engine has stand at fixed places.
-/

namespace ScriptedShell.Script

abbrev ScopeId := Nat

structure Closure where
  head : FunctionHead
  body : List Statement
  scopes : List ScopeId
deriving Inhabited

inductive ObjectClass where
  | plain
  | array
  | arguments
  | failure
  /-- A plain value as an object. -/
  | boxed (value : Value)
  /-- An object whose members are up to two functions: one reads them, and one takes what is assigned to
  them. -/
  | proxy (reader writer : ObjectId)
  | function (closure : Closure)
  | builtin (function : Builtin)
deriving Inhabited

inductive Slot where
  | value (value : Value) (writable : Bool)
  /-- A property that functions read and assign; either may be missing. -/
  | accessor (getter setter : Option ObjectId)
  | proxied (reader writer : ObjectId)
deriving Inhabited

structure Property where
  slot : Slot
  enumerable : Bool
  configurable : Bool
deriving Inhabited

structure ScriptObject where
  objectClass : ObjectClass
  prototype : Option ObjectId
  /-- In the order in which they were added. -/
  properties : List (PropertyKey × Property) := []
deriving Inhabited

namespace Intrinsic

def objectPrototype : ObjectId := 0
def functionPrototype : ObjectId := 1
def arrayPrototype : ObjectId := 2
def stringPrototype : ObjectId := 3
def numberPrototype : ObjectId := 4
def booleanPrototype : ObjectId := 5
def symbolPrototype : ObjectId := 6
def bigintPrototype : ObjectId := 7
def promisePrototype : ObjectId := 8
def global : ObjectId := 9
def items : ObjectId := 10

def refusal : ObjectId := 11

def errorPrototype : ObjectId := 12

def plainPrototype : PlainKind → ObjectId
  | .text => stringPrototype
  | .number => numberPrototype
  | .boolean => booleanPrototype
  | .symbol => symbolPrototype
  | .bigint => bigintPrototype

def prototypeOf (kind : ErrorKind) : ObjectId :=
  match kind with
  | .error => errorPrototype
  | .rangeError => errorPrototype + 1
  | .referenceError => errorPrototype + 2
  | .syntaxError => errorPrototype + 3
  | .typeError => errorPrototype + 4
  | .internalError => errorPrototype + 5
  | .evalError => errorPrototype + 6
  | .uriError => errorPrototype + 7

end Intrinsic

def Property.plain (value : Value) : Property :=
  ⟨.value value true, true, true⟩

def Property.hidden (value : Value) : Property :=
  ⟨.value value true, false, true⟩

/-- A hidden property that can only be removed or defined anew. -/
def Property.settled (value : Value) : Property :=
  ⟨.value value false, false, true⟩

def Property.forbidden (configurable : Bool) : Property :=
  ⟨.accessor (some Intrinsic.refusal) (some Intrinsic.refusal), false, configurable⟩

def Property.constant (value : Value) : Property :=
  ⟨.value value false, false, false⟩

def replaceEntry {κ α : Type} [DecidableEq κ] (key : κ) (value : α) : List (κ × α) → List (κ × α)
  | [] => [(key, value)]
  | (other, old) :: rest =>
    if other = key then (key, value) :: rest else (other, old) :: replaceEntry key value rest

namespace ScriptObject

/-- A property of the object itself. A boxed text has its units as items, and a proxy whatever it is asked
for. -/
def own? (object : ScriptObject) (key : PropertyKey) : Option Property :=
  match object.objectClass with
  | .boxed (.text units) =>
    match key.index?.bind fun index => units[index]? with
    | some unit => some ⟨.value (.text [unit]) false, true, false⟩
    | none => object.properties.lookup key
  | .proxy reader writer => some ⟨.proxied reader writer, false, true⟩
  | _ => object.properties.lookup key

def put (object : ScriptObject) (key : PropertyKey) (property : Property) : ScriptObject :=
  { object with properties := replaceEntry key property object.properties }

def remove (object : ScriptObject) (key : PropertyKey) : ScriptObject :=
  { object with properties := object.properties.filter fun entry => entry.1 ≠ key }

def isCallable (object : ScriptObject) : Bool :=
  match object.objectClass with
  | .function _ | .builtin _ => true
  | _ => false

def isConstructor (object : ScriptObject) : Bool :=
  match object.objectClass with
  | .function closure => closure.head.kind == .ordinary
  | .builtin builtin => builtin.constructs
  | _ => false

def isArray (object : ScriptObject) : Bool :=
  match object.objectClass with
  | .array => true
  | _ => false

def isFailure (object : ScriptObject) : Bool :=
  match object.objectClass with
  | .failure => true
  | _ => false

def tag (object : ScriptObject) : String :=
  match object.objectClass with
  | .array => "Array"
  | .arguments => "Arguments"
  | .failure => "Error"
  | .boxed (.boolean _) => "Boolean"
  | .boxed (.number _ _) => "Number"
  | .boxed (.text _) => "String"
  | .function _ | .builtin _ => "Function"
  | .plain | .boxed _ | .proxy _ _ => "Object"

end ScriptObject

end ScriptedShell.Script
