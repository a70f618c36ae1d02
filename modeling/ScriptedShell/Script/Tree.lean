import ScriptedShell.Text.Utf16

/-!
Scripts as trees. A chunk is a list of statements in strict mode.
-/

namespace ScriptedShell.Script

inductive Literal where
  | undefined
  | null
  | boolean (value : Bool)
  | number (value : Float)
  | bigint (value : Int)
  | text (units : Units)
deriving Inhabited

inductive FunctionKind where
  /-- A function that has its own `arguments` and can construct. -/
  | ordinary
  /-- A function that has its own `arguments`. -/
  | method
  /-- A function that sees the `arguments` around it. -/
  | arrow
deriving DecidableEq, Repr, Inhabited

/-- What is told of a function apart from its statements. -/
structure FunctionHead where
  kind : FunctionKind
  parameters : List String
  /-- The whole function as it is written, and the line on which that begins. -/
  text : String
  line : Nat
deriving DecidableEq, Repr, Inhabited

inductive DeclarationKind where
  /-- `var`: the whole function. -/
  | wide
  /-- `let`: the block. -/
  | narrow
  /-- `const`: the block, assigned once. -/
  | fixed
deriving DecidableEq, Repr, Inhabited

mutual

inductive Expression where
  | literal (value : Literal)
  | name (name : String)
  | array (items : List Expression)
  | object (entries : List Entry)
  | function (head : FunctionHead) (body : List Statement)
  | add (left right : Expression)
  | subtract (left right : Expression)
  | strictlyEqual (left right : Expression)
  | lessThan (left right : Expression)
  | not (operand : Expression)
  | negate (operand : Expression)
  | typeOf (operand : Expression)
  | member (object key : Expression)
  | hasMember (key object : Expression)
  | call (callee : Expression) (arguments : List Expression)
  | construct (callee : Expression) (arguments : List Expression)

inductive Entry where
  | value (key value : Expression)
  | getter (key : Expression) (head : FunctionHead) (body : List Statement)

inductive Statement where
  | evaluate (value : Expression)
  /-- `return`. -/
  | answer (value : Expression)
  /-- `throw`. -/
  | raise (value : Expression)
  | declare (kind : DeclarationKind) (name : String) (value : Expression)
  | assign (name : String) (value : Expression)
  | setMember (object key value : Expression)
  | deleteMember (object key : Expression)
  | function (name : String) (head : FunctionHead) (body : List Statement)
  | branch (condition : Expression) (whenTrue whenFalse : List Statement)
  /-- `try`: the handler may have a name for what was thrown. -/
  | attempt (body : List Statement) (caught : Option String) (handler : List Statement)
  /-- `for`: counts a name from zero as long as it is less than the limit. -/
  | count (counter : String) (limit : Expression) (body : List Statement)

end

instance : Inhabited Expression := ⟨.literal .undefined⟩

instance : Inhabited Statement := ⟨.evaluate default⟩

def reservedWords : List String :=
  ["null", "true", "false", "this", "break", "case", "catch", "class", "const", "continue",
    "debugger", "default", "delete", "do", "else", "enum", "export", "extends", "finally", "for",
    "function", "if", "import", "in", "instanceof", "new", "return", "super", "switch", "throw",
    "try", "typeof", "var", "void", "while", "with", "implements", "interface", "let", "package",
    "private", "protected", "public", "static", "yield"]

def valueWords : List String :=
  ["null", "true", "false", "this"]

def Expression.text (value : String) : Expression :=
  .literal (.text (Utf16.encode value))

def Expression.memberNamed (object : Expression) (name : String) : Expression :=
  .member object (.text name)

end ScriptedShell.Script
