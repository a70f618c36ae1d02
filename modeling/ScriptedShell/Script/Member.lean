import ScriptedShell.Script.Action

/-!
Reading members of values. A member that functions read is computed by a call, so reading is given the
means to call them.
-/

namespace ScriptedShell.Script

abbrev Caller := Value → Value → List Value → Action Value

namespace Member

/-- The object that has a value's members: the object itself, or the prototype of the values of its
kind. -/
def holder? : Value → Option ObjectId
  | .undefined | .null => none
  | .object id => some id
  | .boolean _ => some (Intrinsic.plainPrototype .boolean)
  | .number _ _ => some (Intrinsic.plainPrototype .number)
  | .bigint _ => some (Intrinsic.plainPrototype .bigint)
  | .symbol _ => some (Intrinsic.plainPrototype .symbol)
  | .text _ => some (Intrinsic.plainPrototype .text)

def ofText? (units : Units) (key : PropertyKey) : Option Value :=
  if key = .named "length" then some (.ofNat units.length)
  else (key.index?.bind fun index => units[index]?).map fun unit => .text [unit]

def readSlot (call : Caller) (receiver : Value) (holder : ObjectId) (key : PropertyKey) :
    Slot → Action Value
  | .value value _ => pure value
  | .accessor none _ => pure .undefined
  | .accessor (some getter) _ => call (.object getter) receiver []
  | .proxied reader _ => call (.object reader) (.object holder) [key.toValue, receiver]

def own? (id : ObjectId) (key : PropertyKey) : Action (Option Property) :=
  Action.inspect fun engine => (engine.object id).own? key

def find? (id : ObjectId) (key : PropertyKey) : Action (Option (ObjectId × Property)) :=
  Action.inspect (·.findProperty id key)

def readFrom (call : Caller) (receiver : Value) (id : ObjectId) (key : PropertyKey) :
    Action Value := do
  match ← find? id key with
  | some (holder, property) => readSlot call receiver holder key property.slot
  | none => pure .undefined

def read (call : Caller) (value : Value) (key : PropertyKey) : Action Value :=
  match value with
  | .undefined => Action.typeErrorAbout "cannot read property '" key.shown "' of undefined"
  | .null => Action.typeErrorAbout "cannot read property '" key.shown "' of null"
  | .text units =>
    match ofText? units key with
    | some member => pure member
    | none => readFrom call value Intrinsic.stringPrototype key
  | value =>
    match holder? value with
    | some id => readFrom call value id key
    | none => pure .undefined

def readNamed (call : Caller) (value : Value) (name : String) : Action Value :=
  read call value (.named name)

end Member

end ScriptedShell.Script
