import ScriptedShell.Script.Engine

/-!
A new engine: the prototypes, the errors and the global names that every script finds. Each function
is listed with the number of arguments that its `length` tells.
-/

namespace ScriptedShell.Script

structure BuiltinEntry where
  name : String
  length : Nat
  builtin : Builtin

namespace Intrinsic

def objects : List ScriptObject :=
  let make := fun (objectClass : ObjectClass) (prototype : Option ObjectId) =>
    ({ objectClass, prototype } : ScriptObject)
  let ordinary := some objectPrototype
  [make .plain none,
    make (.builtin .idle) ordinary,
    make .array ordinary,
    make (.boxed (.text [])) ordinary,
    make (.boxed (.ofNat 0)) ordinary,
    make (.boxed (.boolean false)) ordinary,
    make .plain ordinary,
    make .plain ordinary,
    make .plain ordinary,
    make .plain ordinary,
    make (.builtin (.other "values")) (some functionPrototype),
    make (.builtin .refuse) (some functionPrototype),
    make .plain ordinary,
    make .plain (some errorPrototype),
    make .plain (some errorPrototype),
    make .plain (some errorPrototype),
    make .plain (some errorPrototype),
    make .plain (some errorPrototype),
    make .plain (some errorPrototype),
    make .plain (some errorPrototype)]

def start : Engine where
  objects := objects.toArray
  scopes := #[]
  lexicals := []
  nextSymbol := Symbol.knownNames.length
  frames := []

def hide (id : ObjectId) (name : String) (value : Value) (engine : Engine) : Engine :=
  engine.put id (.named name) (.hidden value)

def addConstants (holder : ObjectId) (constants : List (String × Float)) (engine : Engine) :
    Engine :=
  constants.foldl
    (fun engine (name, value) => engine.put holder (.named name) (.constant (.ofFloat value))) engine

def addTag (holder : ObjectId) (tag : String) (engine : Engine) : Engine :=
  engine.put holder (.known "toStringTag") (.settled (.ofString tag))

def functionProperties (name : String) (length : Nat) : List (PropertyKey × Property) :=
  [(.named "length", .settled (.ofNat length)), (.named "name", .settled (.ofString name))]

def allocateFunction (entry : BuiltinEntry) (engine : Engine) : ObjectId × Engine :=
  engine.allocate
    { objectClass := .builtin entry.builtin
      prototype := some functionPrototype
      properties := functionProperties entry.name entry.length }

def addFunction (holder : ObjectId) (entry : BuiltinEntry) (engine : Engine) : Engine :=
  let (id, engine) := allocateFunction entry engine
  hide holder entry.name (.object id) engine

def addFunctions (holder : ObjectId) (entries : List BuiltinEntry) (engine : Engine) : Engine :=
  entries.foldl (fun engine entry => addFunction holder entry engine) engine

def addKnown (holder : ObjectId) (symbol : String) (length : Nat) (builtin : Builtin)
    (property : Value → Property) (engine : Engine) : Engine :=
  let (id, engine) := allocateFunction ⟨"[Symbol." ++ symbol ++ "]", length, builtin⟩ engine
  engine.put holder (.known symbol) (property (.object id))

def addAccessor (holder : ObjectId) (name : String) (getter : Builtin) (setter : Option Builtin)
    (engine : Engine) : Engine :=
  let (read, engine) := allocateFunction ⟨"get " ++ name, 0, getter⟩ engine
  let (write, engine) :=
    match setter with
    | some setter =>
      let (id, engine) := allocateFunction ⟨"set " ++ name, 1, setter⟩ engine
      (some id, engine)
    | none => (none, engine)
  engine.put holder (.named name) ⟨.accessor (some read) write, false, true⟩

def others (entries : List (String × Nat)) : List BuiltinEntry :=
  entries.map fun (name, length) => ⟨name, length, .other name⟩

def addConstructor (prototype : ObjectId) (entry : BuiltinEntry) (members : List BuiltinEntry)
    (engine : Engine) : Engine :=
  let (id, engine) := allocateFunction entry engine
  let engine := hide global entry.name (.object id) engine
  let engine := engine.put id (.named "prototype") (.constant (.object prototype))
  let engine := hide prototype "constructor" (.object id) engine
  addFunctions id members engine

def constructorOf (prototype : ObjectId) (engine : Engine) : ObjectId :=
  match (engine.object prototype).own? (.named "constructor") with
  | some ⟨.value (.object id) _, _, _⟩ => id
  | _ => functionPrototype

def addError (kind : ErrorKind) (engine : Engine) : Engine :=
  let prototype := prototypeOf kind
  let engine := addConstructor prototype ⟨kind.name, 1, .makeError kind⟩ [] engine
  let engine := hide prototype "name" (.ofString kind.name) engine
  hide prototype "message" (.ofString "") engine

def addErrorKind (kind : ErrorKind) (engine : Engine) : Engine :=
  let engine := addError kind engine
  let id := constructorOf (prototypeOf kind) engine
  engine.setObject id
    { engine.object id with prototype := some (constructorOf errorPrototype engine) }

def addNamespace (name : String) (members : List (String × Nat)) (constants : List (String × Float))
    (engine : Engine) : Engine :=
  let (id, engine) := engine.allocate
    { objectClass := .plain, prototype := some objectPrototype }
  let engine := addFunctions id (others members) (hide global name (.object id) engine)
  addTag id name (addConstants id constants engine)

def addClass (name : String) (length : Nat) (tag : Option String) (engine : Engine) : Engine :=
  let (prototype, engine) := engine.allocate
    { objectClass := .plain, prototype := some objectPrototype }
  let engine := addConstructor prototype ⟨name, length, .other name⟩ [] engine
  match tag with
  | some tag => addTag prototype tag engine
  | none => engine

def addObjectMembers (engine : Engine) : Engine :=
  let engine := addFunctions objectPrototype
    ([⟨"toString", 0, .objectText⟩, ⟨"toLocaleString", 0, .localText⟩, ⟨"valueOf", 0, .asObject⟩,
        ⟨"hasOwnProperty", 1, .hasOwn⟩, ⟨"isPrototypeOf", 1, .isPrototypeOf⟩,
        ⟨"propertyIsEnumerable", 1, .isEnumerable⟩]
      ++ others [("__defineGetter__", 2), ("__defineSetter__", 2), ("__lookupGetter__", 1),
        ("__lookupSetter__", 1)]) engine
  addAccessor objectPrototype "__proto__" .readPrototype (some .writePrototype) engine

def addFunctionMembers (engine : Engine) : Engine :=
  let engine := engine.setObject functionPrototype
    { engine.object functionPrototype with properties := functionProperties "" 0 }
  let engine := engine.setObject refusal
    { engine.object refusal with properties := functionProperties "" 0 }
  let engine := engine.put functionPrototype (.named "caller") (.forbidden true)
  let engine := engine.put functionPrototype (.named "arguments") (.forbidden true)
  let engine := addFunctions functionPrototype
    ([⟨"call", 1, .callFunction⟩, ⟨"toString", 0, .functionText⟩]
      ++ others [("apply", 2), ("bind", 1)]) engine
  let engine := addKnown functionPrototype "hasInstance" 1 (.other "hasInstance")
    .constant engine
  let engine := addAccessor functionPrototype "fileName" .sourceName none engine
  addAccessor functionPrototype "lineNumber" .sourceLine none engine

def addArrayMembers (engine : Engine) : Engine :=
  let engine := engine.put arrayPrototype (.named "length")
    ⟨.value (.ofNat 0) true, false, false⟩
  let engine := engine.setObject items
    { engine.object items with properties := functionProperties "values" 0 }
  let engine := addFunctions arrayPrototype
    ([⟨"join", 1, .joinItems⟩, ⟨"toString", 0, .arrayText⟩]
      ++ others [("at", 1), ("with", 2), ("concat", 1), ("every", 1), ("some", 1), ("forEach", 1),
        ("map", 1), ("filter", 1), ("reduce", 1), ("reduceRight", 1), ("fill", 1), ("find", 1),
        ("findIndex", 1), ("findLast", 1), ("findLastIndex", 1), ("indexOf", 1), ("lastIndexOf", 1),
        ("includes", 1), ("toLocaleString", 0), ("pop", 0), ("push", 1), ("shift", 0),
        ("unshift", 1), ("reverse", 0), ("toReversed", 0), ("sort", 1), ("toSorted", 1),
        ("slice", 2), ("splice", 2), ("toSpliced", 2), ("copyWithin", 2), ("flatMap", 1),
        ("flat", 0), ("keys", 0), ("entries", 0)]) engine
  let engine := hide arrayPrototype "values" (.object items) engine
  engine.put arrayPrototype (.known "iterator") (.hidden (.object items))

def addTextMembers (engine : Engine) : Engine :=
  let engine := engine.put stringPrototype (.named "length") (.constant (.ofNat 0))
  let engine := addFunctions stringPrototype
    ([⟨"toString", 0, .plainText .text⟩, ⟨"valueOf", 0, .plainValue .text⟩]
      ++ others [("at", 1), ("charCodeAt", 1), ("charAt", 1), ("concat", 1), ("codePointAt", 1),
        ("isWellFormed", 0), ("toWellFormed", 0), ("indexOf", 1), ("lastIndexOf", 1),
        ("includes", 1), ("endsWith", 1), ("startsWith", 1), ("match", 1), ("matchAll", 1),
        ("search", 1), ("split", 2), ("substring", 2), ("substr", 2), ("slice", 2), ("repeat", 1),
        ("replace", 2), ("replaceAll", 2), ("padEnd", 1), ("padStart", 1), ("trim", 0),
        ("trimEnd", 0), ("trimRight", 0), ("trimStart", 0), ("trimLeft", 0), ("__quote", 1),
        ("localeCompare", 1), ("toLowerCase", 0), ("toUpperCase", 0), ("toLocaleLowerCase", 0),
        ("toLocaleUpperCase", 0), ("anchor", 1), ("big", 0), ("blink", 0), ("bold", 0),
        ("fixed", 0), ("fontcolor", 1), ("fontsize", 1), ("italics", 0), ("link", 1), ("small", 0),
        ("strike", 0), ("sub", 0), ("sup", 0), ("normalize", 0)]) engine
  addKnown stringPrototype "iterator" 0 (.other "iterator") .hidden engine

def addPlainMembers (engine : Engine) : Engine :=
  let engine := addFunctions numberPrototype
    ([⟨"toString", 1, .plainText .number⟩, ⟨"valueOf", 0, .plainValue .number⟩,
        ⟨"toLocaleString", 0, .plainText .number⟩]
      ++ others [("toExponential", 1), ("toFixed", 1), ("toPrecision", 1)]) engine
  let engine := addFunctions booleanPrototype
    [⟨"toString", 0, .plainText .boolean⟩, ⟨"valueOf", 0, .plainValue .boolean⟩] engine
  let engine := addFunctions symbolPrototype
    [⟨"toString", 0, .plainText .symbol⟩, ⟨"valueOf", 0, .plainValue .symbol⟩] engine
  let engine := addAccessor symbolPrototype "description" .describeSymbol none engine
  let engine := addKnown symbolPrototype "toPrimitive" 1 (.plainValue .symbol) .settled engine
  let engine := addTag symbolPrototype "Symbol" engine
  let engine := addFunctions bigintPrototype
    [⟨"toString", 0, .plainText .bigint⟩, ⟨"valueOf", 0, .plainValue .bigint⟩] engine
  let engine := addTag bigintPrototype "BigInt" engine
  let engine := addFunctions promisePrototype
    (others [("then", 2), ("catch", 1), ("finally", 1)]) engine
  addTag promisePrototype "Promise" engine

def addPrototypes (engine : Engine) : Engine :=
  let engine := addObjectMembers engine
  let engine := addFunctionMembers engine
  let engine := addArrayMembers engine
  let engine := addTextMembers engine
  let engine := addPlainMembers engine
  addFunctions errorPrototype [⟨"toString", 0, .errorText⟩] engine

def addPlainConstructors (engine : Engine) : Engine :=
  let engine := addConstructor objectPrototype ⟨"Object", 1, .makeObject⟩
    ([⟨"keys", 1, .keys⟩, ⟨"defineProperty", 3, .defineMember⟩, ⟨"create", 2, .createObject⟩]
      ++ others [("getPrototypeOf", 1), ("setPrototypeOf", 2), ("defineProperties", 2),
        ("getOwnPropertyNames", 1), ("getOwnPropertySymbols", 1), ("groupBy", 2), ("values", 1),
        ("entries", 1), ("isExtensible", 1), ("preventExtensions", 1),
        ("getOwnPropertyDescriptor", 2), ("getOwnPropertyDescriptors", 1), ("is", 2),
        ("assign", 2), ("seal", 1), ("freeze", 1), ("isSealed", 1), ("isFrozen", 1),
        ("__getClass", 1), ("fromEntries", 1), ("hasOwn", 2)]) engine
  let engine := addConstructor functionPrototype ⟨"Function", 1, .other "Function"⟩ [] engine
  let engine := addConstructor arrayPrototype ⟨"Array", 1, .makeArray⟩
    (others [("isArray", 1), ("from", 1), ("of", 0)]) engine
  let engine := addConstructor stringPrototype ⟨"String", 1, .makeText⟩
    (others [("fromCharCode", 1), ("fromCodePoint", 1), ("raw", 1)]) engine
  let engine := addConstructor numberPrototype ⟨"Number", 1, .makeNumber⟩
    (others [("parseInt", 2), ("parseFloat", 1), ("isNaN", 1), ("isFinite", 1), ("isInteger", 1),
      ("isSafeInteger", 1)]) engine
  let engine := addConstants (constructorOf numberPrototype engine)
    [("MAX_VALUE", 1.7976931348623157e308), ("MIN_VALUE", 5e-324), ("NaN", Value.notANumber),
      ("NEGATIVE_INFINITY", -1.0 / 0.0), ("POSITIVE_INFINITY", 1.0 / 0.0),
      ("EPSILON", 2.220446049250313e-16), ("MAX_SAFE_INTEGER", 9007199254740991.0),
      ("MIN_SAFE_INTEGER", -9007199254740991.0)] engine
  let engine := addConstructor booleanPrototype ⟨"Boolean", 1, .makeBoolean⟩ [] engine
  let engine := addConstructor symbolPrototype ⟨"Symbol", 0, .makeSymbol⟩
    (others [("for", 1), ("keyFor", 1)]) engine
  let symbol := constructorOf symbolPrototype engine
  let engine := Symbol.knownNames.foldl
    (fun engine name =>
      engine.put symbol (.named name) (.constant (.symbol (Symbol.known name)))) engine
  let engine := addConstructor bigintPrototype ⟨"BigInt", 1, .other "BigInt"⟩
    (others [("asUintN", 2), ("asIntN", 2)]) engine
  addConstructor promisePrototype ⟨"Promise", 1, .other "Promise"⟩
    ([⟨"resolve", 1, .resolvePromise⟩]
      ++ others [("reject", 1), ("all", 1), ("allSettled", 1), ("any", 1), ("race", 1),
        ("withResolvers", 0)]) engine

def addClasses (engine : Engine) : Engine :=
  let engine := ["Map", "Set", "WeakMap", "WeakSet"].foldl
    (fun engine name => addClass name 0 (some name) engine) engine
  let engine := ["ArrayBuffer", "SharedArrayBuffer", "DataView"].foldl
    (fun engine name => addClass name 1 (some name) engine) engine
  let engine := ["Uint8ClampedArray", "Int8Array", "Uint8Array", "Int16Array", "Uint16Array",
    "Int32Array", "Uint32Array", "BigInt64Array", "BigUint64Array", "Float32Array",
    "Float64Array"].foldl (fun engine name => addClass name 3 none engine) engine
  let engine := addClass "Date" 7 none (addClass "RegExp" 2 none engine)
  let engine := addClass "AggregateError" 2 none engine
  addFunctions global (others [("Proxy", 2)]) engine

def addGlobalFunctions (engine : Engine) : Engine :=
  addFunctions global
    (others [("parseInt", 2), ("parseFloat", 1), ("isNaN", 1), ("isFinite", 1), ("decodeURI", 1),
      ("decodeURIComponent", 1), ("encodeURI", 1), ("encodeURIComponent", 1), ("escape", 1),
      ("unescape", 1), ("__date_clock", 0), ("eval", 1)]) engine

def addNamespaces (engine : Engine) : Engine :=
  let engine := addNamespace "Math"
    [("min", 2), ("max", 2), ("abs", 1), ("floor", 1), ("ceil", 1), ("round", 1), ("sqrt", 1),
      ("acos", 1), ("asin", 1), ("atan", 1), ("atan2", 2), ("cos", 1), ("exp", 1), ("log", 1),
      ("pow", 2), ("sin", 1), ("tan", 1), ("trunc", 1), ("sign", 1), ("cosh", 1), ("sinh", 1),
      ("tanh", 1), ("acosh", 1), ("asinh", 1), ("atanh", 1), ("expm1", 1), ("log1p", 1),
      ("log2", 1), ("log10", 1), ("cbrt", 1), ("hypot", 2), ("random", 0), ("fround", 1),
      ("imul", 2), ("clz32", 1)]
    [("E", 2.718281828459045), ("LN10", 2.302585092994046), ("LN2", 0.6931471805599453),
      ("LOG2E", 1.4426950408889634), ("LOG10E", 0.4342944819032518), ("PI", 3.141592653589793),
      ("SQRT1_2", 0.7071067811865476), ("SQRT2", 1.4142135623730951)] engine
  let engine := addNamespace "JSON" [("parse", 2), ("stringify", 3)] [] engine
  let engine := addNamespace "Reflect"
    [("apply", 3), ("construct", 2), ("defineProperty", 3), ("deleteProperty", 2), ("get", 2),
      ("getOwnPropertyDescriptor", 2), ("getPrototypeOf", 1), ("has", 2), ("isExtensible", 1),
      ("ownKeys", 1), ("preventExtensions", 1), ("set", 3), ("setPrototypeOf", 2)] [] engine
  addNamespace "Atomics"
    [("add", 3), ("and", 3), ("or", 3), ("sub", 3), ("xor", 3), ("exchange", 3),
      ("compareExchange", 4), ("load", 2), ("store", 3), ("isLockFree", 1), ("wait", 4),
      ("notify", 3)] [] engine

def addGlobals (engine : Engine) : Engine :=
  let engine := addPlainConstructors engine
  let engine := addError .error engine
  let engine := [ErrorKind.rangeError, .referenceError, .syntaxError, .typeError, .internalError,
    .evalError, .uriError].foldl (fun engine kind => addErrorKind kind engine) engine
  let engine := addClasses engine
  let engine := addGlobalFunctions engine
  let engine := addNamespaces engine
  let engine := hide global "globalThis" (.object global) engine
  let engine := engine.put global (.named "undefined") (.constant .undefined)
  addConstants global [("NaN", Value.notANumber), ("Infinity", 1.0 / 0.0)] engine

end Intrinsic

def Engine.new : Engine :=
  Intrinsic.addGlobals (Intrinsic.addPrototypes Intrinsic.start)

end ScriptedShell.Script
