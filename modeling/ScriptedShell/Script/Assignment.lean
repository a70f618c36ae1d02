import ScriptedShell.Script.Conversion

/-!
Assigning, defining and deleting members. The length of an array and its items keep in step: an item
behind the end moves the end, and a smaller length removes items.
-/

namespace ScriptedShell.Script

namespace Number

def truncate (number : Float) : Int :=
  if number.isNaN || number.isInf then 0
  else
    let bits := number.toBits.toNat
    let binary := Decimal.Binary.ofBits (bits % signBit)
    let magnitude :=
      binary.significand * Decimal.pow2 binary.exponent / Decimal.pow2 (-binary.exponent)
    if signBit ≤ bits then -Int.ofNat magnitude else Int.ofNat magnitude

end Number

namespace ArrayLength

def limit : Nat := Nat.pow 2 32

def ofFloat? (number : Float) : Option Nat :=
  let whole := Number.truncate number
  if number.floor == number && !number.isInf && 0 ≤ whole && whole < Int.ofNat limit then
    some whole.toNat
  else none

def ofInt? (whole : Int) : Option Nat :=
  if 0 ≤ whole ∧ whole < Int.ofNat limit then some whole.toNat else none

def invalid {α : Type} : Action α :=
  Action.rangeError "invalid array length"

def orInvalid : Option Nat → Action Nat
  | some length => pure length
  | none => invalid

/-- A length from any value. What is no number yet is converted twice, and both results have to
agree. -/
def ofValue (call : Caller) (value : Value) : Action Nat :=
  match value with
  | .null => pure 0
  | .boolean value => pure (if value then 1 else 0)
  | .number value _ => orInvalid (ofFloat? value)
  | .bigint value => orInvalid (ofInt? value)
  | value => do
    let wrapped := (Number.truncate (← Convert.number call value) % Int.ofNat limit).toNat
    let length ← orInvalid (ofFloat? (← Convert.number call value))
    if length = wrapped then return length else invalid

def current (array : ScriptObject) : Nat :=
  match array.own? (.named "length") with
  | some ⟨.value (.number number _) _, _, _⟩ => number.toUInt64.toNat
  | _ => 0

def set (length : Nat) (array : ScriptObject) : ScriptObject :=
  array.put (.named "length") ⟨.value (.ofNat length) true, false, false⟩

/-- The length that can be reached from the end downwards: items that cannot be removed stay. -/
def reachable (length : Nat) (array : ScriptObject) : Nat :=
  array.properties.foldl
    (fun reached (key, property) =>
      match key.index? with
      | some index => if property.configurable then reached else max reached (index + 1)
      | none => reached) length

def removeFrom (length : Nat) (array : ScriptObject) : ScriptObject :=
  { array with
    properties := array.properties.filter fun (key, _) => key.index?.all fun index => index < length }

def assign (call : Caller) (id : ObjectId) (value : Value) : Action Unit := do
  let length ← ofValue call value
  let reached ← Action.inspect fun engine => reachable length (engine.object id)
  Action.change (·.alter id fun array => set reached (removeFrom reached array))
  if reached = length then return else Action.typeError "not configurable"

end ArrayLength

namespace Member

def add (key : PropertyKey) (property : Property) (object : ScriptObject) : ScriptObject :=
  let object :=
    match object.isArray, key.index? with
    | true, some index =>
      if ArrayLength.current object ≤ index then ArrayLength.set (index + 1) object else object
    | _, _ => object
  object.put key property

def readOnly {α : Type} (name : Units) : Action α :=
  Action.typeErrorAbout "'" name "' is read-only"

def assignThrough (call : Caller) (receiver : Value) (setter : Option ObjectId) (value : Value) :
    Action Unit :=
  match setter with
  | some setter => do
    let _ ← call (.object setter) receiver [value]
    return
  | none => Action.typeError "no setter for property"

def assignProxied (call : Caller) (receiver : Value) (proxy writer : ObjectId) (key : PropertyKey)
    (value : Value) : Action Unit := do
  let _ ← call (.object writer) (.object proxy) [key.toValue, value, receiver]

/-- Assigns to a member of an object. A property found on a prototype is not changed. -/
def assignOn (call : Caller) (id : ObjectId) (key : PropertyKey) (value : Value) :
    Action Unit := do
  let addOwn := Action.change (·.alter id (add key (.plain value)))
  match ← find? id key with
  | none => addOwn
  | some (holder, property) =>
    match property.slot with
    | .accessor _ setter => assignThrough call (.object id) setter value
    | .proxied _ writer => assignProxied call (.object id) holder writer key value
    | .value _ false => readOnly key.shown
    | .value _ true =>
      if holder = id then
        if key = .named "length" && (← Action.object id).isArray then
          ArrayLength.assign call id value
        else Action.change (·.put id key { property with slot := .value value true })
      else addOwn

def assign (call : Caller) (object : Value) (key : PropertyKey) (value : Value) : Action Unit := do
  match object with
  | .object id => assignOn call id key value
  | .undefined => Action.typeErrorAbout "cannot set property '" key.shown "' of undefined"
  | .null => Action.typeErrorAbout "cannot set property '" key.shown "' of null"
  | plain =>
    match ← Action.inspect fun engine => (holder? plain).bind (engine.findProperty · key) with
    | some (_, ⟨.accessor _ setter, _, _⟩) => assignThrough call plain setter value
    | some (proxy, ⟨.proxied _ writer, _, _⟩) => assignProxied call plain proxy writer key value
    | some (_, ⟨.value _ false, _, _⟩) => readOnly key.shown
    | _ => Action.typeError "not an object"

def notDeleted {α : Type} : Action α :=
  Action.typeError "could not delete property"

def delete (object : Value) (key : PropertyKey) : Action Unit := do
  match object with
  | .object id =>
    match ← own? id key with
    | none => pure ()
    | some property =>
      if property.configurable then Action.change (·.alter id (·.remove key))
      else notDeleted
  | .undefined | .null => Action.typeError "cannot convert to object"
  | .text units => if (ofText? units key).isSome then notDeleted else pure ()
  | _ => pure ()

def defineGetter (id : ObjectId) (key : PropertyKey) (getter : Option ObjectId) : Action Unit := do
  match ← own? id key with
  | none => Action.change (·.alter id (add key ⟨.accessor getter none, false, false⟩))
  | some property =>
    if property.configurable then
      let setter := match property.slot with
        | .accessor _ setter => setter
        | _ => none
      Action.change (·.put id key { property with slot := .accessor getter setter })
    else Action.typeError "property is not configurable"

def setPrototype (id : ObjectId) (prototype : Option ObjectId) : Action Unit := do
  if ← Action.inspect fun engine => prototype.any (engine.inherits · id) then
    Action.typeError "circular prototype chain"
  else Action.change (·.alter id fun object => { object with prototype })

/-- The names of an object's enumerable properties: item numbers ascending, then the other names in
the order in which they were set. -/
def enumerableNames (object : ScriptObject) : List Units :=
  let itself := match object.objectClass with
    | .boxed (.text units) => List.range units.length
    | _ => []
  let keys := object.properties.filterMap fun (key, property) =>
    if property.enumerable then some key else none
  let indices := (itself ++ keys.filterMap PropertyKey.index?).mergeSort (· ≤ ·)
  let others := keys.filterMap fun key =>
    match key, key.index? with
    | .text units, none => some units
    | _, _ => none
  indices.map (fun index => Utf16.encode (toString index)) ++ others

end Member

def itemProperties (items : List Value) : List (PropertyKey × Property) :=
  items.zipIdx.map fun (item, index) => (.ofIndex index, .plain item)

def makeArray (items : List Value) : Action Value :=
  Action.allocate
    { objectClass := .array
      prototype := some Intrinsic.arrayPrototype
      properties := itemProperties items ++
        [(.named "length", ⟨.value (.ofNat items.length) true, false, false⟩)] }

end ScriptedShell.Script
