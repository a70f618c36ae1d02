import ScriptedShell.Script.Dialogue
import ScriptedShell.Script.Message

/-!
Actions of a script: steps that read and change the engine, may ask the host, and end with a value or
by throwing one. The engine is kept in both cases.
-/

namespace ScriptedShell.Script

inductive Outcome (α : Type) where
  | value (result : α)
  | thrown (value : Value)

def Action (α : Type) : Type :=
  Engine → Dialogue (Outcome α × Engine)

namespace Action

def pure {α : Type} (result : α) : Action α :=
  fun engine => .done (.value result, engine)

def bind {α β : Type} (action : Action α) (next : α → Action β) : Action β :=
  fun engine => (action engine).bind fun
    | (.value result, engine) => next result engine
    | (.thrown value, engine) => .done (.thrown value, engine)

instance : Monad Action where
  pure := Action.pure
  bind := Action.bind

def throwValue {α : Type} (value : Value) : Action α :=
  fun engine => .done (.thrown value, engine)

def outcome {α : Type} (action : Action α) : Action (Outcome α) :=
  fun engine => (action engine).bind fun (outcome, engine) => .done (.value outcome, engine)

def inspect {α : Type} (view : Engine → α) : Action α :=
  fun engine => .done (.value (view engine), engine)

def change (f : Engine → Engine) : Action Unit :=
  fun engine => .done (.value (), f engine)

def ask (request : HostRequest) : Action request.Reply :=
  fun engine => .ask engine request fun reply engine => .done (.value reply, engine)

def object (id : ObjectId) : Action ScriptObject :=
  inspect (·.object id)

def isCallable (value : Value) : Action Bool :=
  inspect (·.isCallable value)

def runningFrames : Action (List Frame) :=
  inspect Engine.frames

def allocate (object : ScriptObject) : Action Value :=
  fun engine =>
    let (id, engine) := engine.allocate object
    .done (.value (.object id), engine)

def openScope (scope : Scope) : Action ScopeId :=
  fun engine =>
    let (id, engine) := engine.openScope scope
    .done (.value id, engine)

def inFrame {α : Type} (frame : Frame) (action : Action α) : Action α := do
  change fun engine => engine.within frame
  let ended ← outcome action
  change fun engine => { engine with frames := engine.frames.tail }
  match ended with
  | .value result => return result
  | .thrown value => throwValue value

def makeFailure (kind : ErrorKind) (properties : List (PropertyKey × Property))
    (frames : List Frame) : Action Value := do
  let trace ← inspect (·.trace frames)
  allocate
    { objectClass := .failure
      prototype := some (Intrinsic.prototypeOf kind)
      properties := properties ++ [(.named "stack", .hidden trace)] }

def fail {α : Type} (kind : ErrorKind) (message : Units) : Action α := do
  let error ← makeFailure kind [(.named "message", .hidden (.text message))] (← runningFrames)
  throwValue error

def typeError {α : Type} (message : String) : Action α :=
  fail .typeError (Utf16.encode message)

def typeErrorAbout {α : Type} (before : String) (name : Units) (after : String) : Action α :=
  fail .typeError (Message.about before name after)

def rangeError {α : Type} (message : String) : Action α :=
  fail .rangeError (Utf16.encode message)

/-- Throws a value. An error that does not tell where it comes from does so from now on. -/
def raise {α : Type} (value : Value) : Action α := do
  match value with
  | .object id =>
    let object ← object id
    if object.isFailure && (object.own? (.named "stack")).isNone then
      change fun engine => engine.put id (.named "stack") (.hidden (engine.trace engine.frames))
    throwValue value
  | _ => throwValue value

def mapItems {α β : Type} (action : α → Action β) : List α → Action (List β)
  | [] => pure []
  | item :: rest => do
    let result ← action item
    let results ← mapItems action rest
    return result :: results

def forItems {α : Type} (action : α → Action Unit) : List α → Action Unit
  | [] => pure ()
  | item :: rest => do
    action item
    forItems action rest

end Action

end ScriptedShell.Script
