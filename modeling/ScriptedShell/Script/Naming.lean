import ScriptedShell.Script.Assignment
import ScriptedShell.Script.Declaration

/-!
Names: the scopes that lists of statements open, and reading and assigning what a name stands for. A
name belongs to the innermost scope that has it, else to the names that chunks declared with `let`
and `const`, else to the global object.
-/

namespace ScriptedShell.Script.Naming

def notInitialized {α : Type} (name : String) : Action α :=
  Action.fail .referenceError (Message.about "" (Utf16.encode name) " is not initialized")

def notDefined {α : Type} (name : String) : Action α :=
  Action.fail .referenceError (Message.about "'" (Utf16.encode name) "' is not defined")

def bindingValue (name : String) (binding : Binding) : Action Value :=
  match binding.value with
  | some value => pure value
  | none => notInitialized name

def readName (call : Caller) (scopes : List ScopeId) (name : String) (missing : Action Value) :
    Action Value := do
  match ← Action.inspect (·.site? scopes name) with
  | some (.scope _ binding) | some (.lexical binding) => bindingValue name binding
  | some .global => Member.readNamed call (.object Intrinsic.global) name
  | none => missing

/-- Whether a name is known, asked before there is a value to assign. What a block or a function
declared with `const` is refused at once. -/
def mayAssign (scopes : List ScopeId) (name : String) : Action Bool := do
  match ← Action.inspect (·.site? scopes name) with
  | some (.scope _ binding) =>
    if binding.fixed then Member.readOnly (Utf16.encode name) else return true
  | site => return site.isSome

def storeInScope (id : ScopeId) (name : String) (binding : Binding) (value : Value) :
    Action Unit :=
  Action.change (·.bind id name { binding with value := some value })

def storeLexical (name : String) (binding : Binding) (value : Value) : Action Unit :=
  Action.change fun engine =>
    { engine with
      lexicals := replaceEntry name { binding with value := some value } engine.lexicals }

def requireAssignable (name : String) (binding : Binding) : Action Unit := do
  let _ ← bindingValue name binding
  if binding.fixed then Member.readOnly (Utf16.encode name) else pure ()

def assignName (call : Caller) (scopes : List ScopeId) (name : String) (value : Value) :
    Action Unit := do
  match ← Action.inspect (·.site? scopes name) with
  | some (.scope id binding) =>
    let _ ← bindingValue name binding
    storeInScope id name binding value
  | some (.lexical binding) =>
    requireAssignable name binding
    storeLexical name binding value
  | some .global | none => Member.assignOn call Intrinsic.global (.named name) value

def settle (scopes : List ScopeId) (name : String) (value : Value) : Action Unit := do
  match ← Action.inspect (·.site? scopes name) with
  | some (.scope id binding) => storeInScope id name binding value
  | some (.lexical binding) => storeLexical name binding value
  | some .global | none => pure ()

def lexicalScope (declarations : List Declaration) : Scope :=
  declarations.foldl
    (fun scope declaration =>
      match declaration with
      | .lexical name fixed => replaceEntry name ⟨none, fixed⟩ scope
      | _ => scope) []

/-- Adds the names of `var` declarations and functions to a scope that does not have them. -/
def wideScope (declarations : List Declaration) (scope : Scope) : Scope :=
  declarations.foldl
    (fun scope declaration =>
      match declaration with
      | .wide name | .function name _ _ =>
        match scope.lookup name with
        | some _ => scope
        | none => scope ++ [(name, ⟨some .undefined, false⟩)]
      | .lexical _ _ => scope) scope

end ScriptedShell.Script.Naming
