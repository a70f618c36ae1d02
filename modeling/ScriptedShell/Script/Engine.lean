import ScriptedShell.Script.Object

/-!
The state of a script engine: a heap of objects, the scopes of running and captured functions, and
the names that chunks declared with `let` and `const`.
-/

namespace ScriptedShell.Script

structure Binding where
  /-- Absent until the declaration has run. -/
  value : Option Value
  fixed : Bool
deriving Inhabited

abbrev Scope := List (String × Binding)

inductive Frame where
  | chunk
  | function (id : ObjectId)
deriving DecidableEq, Repr, Inhabited

structure Engine where
  objects : Array ScriptObject
  scopes : Array Scope
  /-- The names that chunks declared with `let` and `const`. -/
  lexicals : Scope
  nextSymbol : Nat
  frames : List Frame
deriving Inhabited

namespace Engine

def object (engine : Engine) (id : ObjectId) : ScriptObject :=
  engine.objects.getD id default

def setObject (engine : Engine) (id : ObjectId) (object : ScriptObject) : Engine :=
  { engine with objects := engine.objects.setIfInBounds id object }

def allocate (engine : Engine) (object : ScriptObject) : ObjectId × Engine :=
  (engine.objects.size, { engine with objects := engine.objects.push object })

def alter (engine : Engine) (id : ObjectId) (f : ScriptObject → ScriptObject) : Engine :=
  { engine with objects := engine.objects.modify id f }

def put (engine : Engine) (id : ObjectId) (key : PropertyKey) (property : Property) : Engine :=
  engine.alter id (·.put key property)

/-- The first object of a prototype chain that has a property, with the property. A chain is no
longer than the heap. -/
def findProperty (engine : Engine) (id : ObjectId) (key : PropertyKey) :
    Option (ObjectId × Property) :=
  search engine.objects.size id
where
  search : Nat → ObjectId → Option (ObjectId × Property)
    | 0, _ => none
    | steps + 1, id =>
      match (engine.object id).own? key with
      | some property => some (id, property)
      | none => (engine.object id).prototype.bind (search steps)

def inherits (engine : Engine) (id ancestor : ObjectId) : Bool :=
  search engine.objects.size id
where
  search : Nat → ObjectId → Bool
    | 0, _ => false
    | steps + 1, id =>
      id == ancestor ||
        match (engine.object id).prototype with
        | some parent => search steps parent
        | none => false

def isCallable (engine : Engine) : Value → Bool
  | .object id => (engine.object id).isCallable
  | _ => false

def scope (engine : Engine) (id : ScopeId) : Scope :=
  engine.scopes.getD id []

def openScope (engine : Engine) (scope : Scope) : ScopeId × Engine :=
  (engine.scopes.size, { engine with scopes := engine.scopes.push scope })

def bind (engine : Engine) (id : ScopeId) (name : String) (binding : Binding) : Engine :=
  { engine with scopes := engine.scopes.modify id (replaceEntry name binding) }

def findBinding (engine : Engine) (name : String) : List ScopeId → Option (ScopeId × Binding)
  | [] => none
  | id :: rest =>
    match (engine.scope id).lookup name with
    | some binding => some (id, binding)
    | none => engine.findBinding name rest

/-- Where a name is kept: in a scope, among the chunks' own names, or as a property of the global
object. -/
inductive Site where
  | scope (id : ScopeId) (binding : Binding)
  | lexical (binding : Binding)
  | global

def site? (engine : Engine) (scopes : List ScopeId) (name : String) : Option Site :=
  match engine.findBinding name scopes with
  | some (id, binding) => some (.scope id binding)
  | none =>
    match engine.lexicals.lookup name with
    | some binding => some (.lexical binding)
    | none => (engine.findProperty Intrinsic.global (.named name)).map fun _ => .global

def functionName (engine : Engine) (id : ObjectId) : Units :=
  match (engine.object id).own? (.named "name") with
  | some ⟨.value (.text units) _, _, _⟩ => units
  | _ => []

def sourceName : String := "eval_script"

def frameText (engine : Engine) (frame : Frame) : Units :=
  let (name, place) := match frame with
    | .chunk => (Utf16.encode "<eval>", sourceName)
    | .function id =>
      (engine.functionName id,
        match (engine.object id).objectClass with
        | .builtin _ => "native"
        | _ => sourceName)
  let name := if name.isEmpty then Utf16.encode "<anonymous>" else name
  Utf16.encode "    at " ++ name ++ Utf16.encode (" (" ++ place ++ ")\n")

def trace (engine : Engine) (frames : List Frame) : Value :=
  .text (frames.flatMap engine.frameText)

def within (engine : Engine) (frame : Frame) : Engine :=
  { engine with frames := frame :: engine.frames }

def typeOf (engine : Engine) : Value → String
  | .undefined => "undefined"
  | .null => "object"
  | .boolean _ => "boolean"
  | .number _ _ => "number"
  | .bigint _ => "bigint"
  | .text _ => "string"
  | .symbol _ => "symbol"
  | .object id => if (engine.object id).isCallable then "function" else "object"

def hostTypeOf (engine : Engine) : Value → String
  | .undefined => "undefined"
  | .null => "null"
  | .boolean _ => "bool"
  | .number _ .whole => "int"
  | .number _ .general => "float"
  | .bigint _ => "bigint"
  | .text _ => "string"
  | .symbol _ => "symbol"
  | .object id =>
    let object := engine.object id
    match object.objectClass with
    | .array => "array"
    | .failure => "exception"
    | .plain | .arguments | .boxed _ | .proxy _ _ => "object"
    | .function _ | .builtin _ => if object.isConstructor then "constructor" else "function"

end Engine

end ScriptedShell.Script
