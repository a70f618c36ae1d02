import ScriptedShell.Script.Evaluation
import ScriptedShell.Script.Intrinsic

/-!
What a host does with an engine: it installs the shell's functions, loads chunks and calls global
functions. Whatever a script throws ends up as a fault.
-/

namespace ScriptedShell.Script

def callFromHost [Library] : Caller :=
  invoke nestingLimit

namespace Chunk

def redeclaration (name : String) : Action Unit :=
  Action.fail .syntaxError (Message.about "redeclaration of '" (Utf16.encode name) "'")

/-- A function may replace a property only if it can be made an ordinary one. -/
def canHoldFunction (property : Property) : Bool :=
  property.configurable ||
    match property.slot with
    | .value _ writable => writable && property.enumerable
    | _ => false

def isLexical (name : String) : Action Bool :=
  Action.inspect fun engine => (engine.lexicals.lookup name).isSome

def reserve (name : String) : Action Unit := do
  if ← isLexical name then redeclaration name else pure ()

theorem checks_reserve (name : String) : (reserve name).Checks := by
  refine .inspect fun known => ?_
  cases known with
  | true => exact .fail _ _
  | false => exact .pass

def checkDeclaration (declaration : Declaration) : Action Unit := do
  let name := declaration.name
  let existing ← Member.own? Intrinsic.global (.named name)
  let blocked := existing.any fun property =>
    match declaration with
    | .lexical _ _ => !property.configurable
    | _ => false
  if blocked then redeclaration name
  else
    match declaration with
    | .function _ _ _ =>
      if existing.all canHoldFunction then pure ()
      else Action.typeErrorAbout "cannot define variable '" (Utf16.encode name) "'"
    | _ => pure ()
    reserve name

theorem checks_declaration (declaration : Declaration) : (checkDeclaration declaration).Checks := by
  refine .inspect fun existing => ?_
  have free := checks_reserve declaration.name
  cases declaration with
  | lexical name fixed =>
      dsimp only
      split
      · exact .fail _ _
      · exact free
  | wide name =>
      dsimp only
      split
      · exact .fail _ _
      · exact free
  | function name head body =>
      dsimp only
      split
      · exact .fail _ _
      split
      · exact free
      · exact .bind (.fail _ _) free

def declareGlobal (declaration : Declaration) : Action Unit := do
  let global := Intrinsic.global
  match declaration with
  | .lexical name fixed =>
    if ← isLexical name then pure ()
    else
      Action.change fun engine =>
        { engine with lexicals := replaceEntry name ⟨none, fixed⟩ engine.lexicals }
  | .wide name =>
    match ← Member.own? global (.named name) with
    | some _ => pure ()
    | none =>
      Action.change (·.put global (.named name) ⟨.value .undefined true, true, false⟩)
  | .function name head body =>
    let function ← Evaluation.makeFunction (Utf16.encode name) ⟨head, body, []⟩
    let property := match ← Member.own? global (.named name) with
      | some ⟨_, enumerable, false⟩ => ⟨.value function true, enumerable, false⟩
      | _ => ⟨.value function true, true, false⟩
    Action.change (·.put global (.named name) property)

end Chunk

def Program.ofStatements [Library] (statements : List Statement) : Program where
  check := Action.forItems Chunk.checkDeclaration (declarationsOf statements)
  checks := .forItems Chunk.checks_declaration _
  perform := do
    Action.forItems Chunk.declareGlobal (declarationsOf statements)
    let _ ← Evaluation.runAll (execute nestingLimit []) statements
    return

structure Report where
  name : Option String
  message : String

namespace Report

def text (report : Report) : String :=
  match report.name with
  | some name => name ++ ": " ++ report.message
  | none => report.message

def isSyntaxError (report : Report) : Bool :=
  report.name == some "SyntaxError"

/-- A member that is a text. Any other value and any failure count as a missing member. -/
def textMember [Library] (object : Value) (name : String) : Action (Option String) := do
  match ← Action.outcome (Member.readNamed callFromHost object name) with
  | .value (.text units) => return (Utf16.decode units).toOption
  | _ => return none

def ofThrown [Library] (thrown : Value) : Action Report := do
  match thrown with
  | .object _ =>
    let name ← textMember thrown "name"
    let message ← textMember thrown "message"
    return ⟨name, message.getD ""⟩
  | thrown =>
    match ← Action.outcome (Convert.hostText callFromHost thrown) with
    | .value text => return ⟨none, text⟩
    | .thrown _ =>
      return ⟨none, "uncaught " ++ (← Action.inspect (·.hostTypeOf thrown))⟩

end Report

inductive Answer where
  | number (value : Float)
  | boolean (value : Bool)
  | nothing
  | other (typeName : String)
deriving Repr

def Answer.ofValue (engine : Engine) : Value → Answer
  | .number value _ => .number value
  | .boolean value => .boolean value
  | .undefined | .null => .nothing
  | value => .other (engine.hostTypeOf value)

def Answer.status : Answer → Except Fault Status
  | .number value => .ok (.ofFloat value)
  | .boolean true => .ok .success
  | .boolean false => .ok .failure
  | .nothing => .ok .success
  | .other typeName => .error (.unexpectedResult typeName)

/-- A host's use of an engine: it cannot throw, but it can end in a fault. -/
abbrev Use (α : Type) := Engine → Dialogue (Except Fault α × Engine)

def Action.use [Library] {α : Type} (action : Action α) (fault : Report → Fault) : Use α :=
  fun engine => (action engine).bind fun
    | (.value result, engine) => .done (.ok result, engine)
    | (.thrown thrown, engine) => (Report.ofThrown thrown engine).bind fun
      | (.value report, engine) => .done (.error (fault report), engine)
      | (.thrown _, engine) => .done (.error (fault ⟨none, ""⟩), engine)

def chunkFault (path : String) (report : Report) : Fault :=
  if report.isSyntaxError then .chunkNotLoaded path report.text
  else .scriptFailed (path ++ ": " ++ report.text)

def evaluateChunk [Language] (path source : String) : Use Unit :=
  match Language.read source with
  | .program program => program.run.use (chunkFault path)
  | .refused error => (Reading.refuse error).use (chunkFault path)
  | .failed message => fun engine => .done (.error (chunkFault path ⟨none, message⟩), engine)

def callFault (report : Report) : Fault :=
  .scriptFailed report.text

def callFunction [Library] (function : Value) (arguments : List String) : Use Answer :=
  Action.use
    (do
      let result ← callFromHost function .undefined (arguments.map Value.ofString)
      Action.inspect (Answer.ofValue · result))
    callFault

def callGlobal [Library] (name : String) (arguments : List String) : Use Answer :=
  fun engine =>
    let global := Member.readNamed callFromHost (.object Intrinsic.global) name
    ((global.use callFault) engine).bind fun
      | (.error fault, engine) => .done (.error fault, engine)
      | (.ok function, engine) =>
        if engine.isCallable function then callFunction function arguments engine
        else .done (.error (.notAFunction name), engine)

namespace Installation

def makeHolder [Library] (functions : List (String × Builtin)) : Action Value := do
  let holder ← Action.allocate
    { objectClass := .plain, prototype := some Intrinsic.objectPrototype }
  Action.forItems
    (fun (name, builtin) => do
      let function ← makeHostFunction builtin
      Member.assign callFromHost holder (.named name) function) functions
  return holder
where
  makeHostFunction (builtin : Builtin) : Action Value :=
    Action.allocate
      { objectClass := .builtin builtin
        prototype := some Intrinsic.functionPrototype
        properties := [(.named "length", .settled (.ofNat builtin.required))] }

def shellFunctions : List (String × Builtin) :=
  [("register", .shell .register), ("getVariable", .shell .getVariable),
    ("setVariable", .shell .setVariable), ("getEnvironment", .shell .getEnvironment),
    ("call", .shell .call)]

def consoleFunctions : List (String × Builtin) :=
  [("log", .console .info), ("warn", .console .warn), ("error", .console .error)]

def install [Library] (name : String) : Action Unit := do
  let global := Value.object Intrinsic.global
  let shell ← makeHolder shellFunctions
  Member.assign callFromHost global (.named name) shell
  let console ← makeHolder consoleFunctions
  Member.assign callFromHost global (.named "console") console
  let print ← makeHolder.makeHostFunction .print
  Member.assign callFromHost global (.named "print") print

end Installation

def installationFailed : String := "Exception generated by QuickJS"

def Engine.ofInstallation : Dialogue (Outcome Unit × Engine) → Except Fault Engine
  | .done (.value (), engine) => .ok engine
  | _ => .error (.engineNotCreated installationFailed)

def Engine.withShell [Library] (name : String) : Except Fault Engine :=
  Engine.ofInstallation (Installation.install name Engine.new)

end ScriptedShell.Script
