import ScriptedShell.Script.Declaration

/-!
Errors that keep a chunk from running at all: `return` outside a function, names that nothing may be
called, and names declared twice. A `var` counts for the block in which its name stands first, and for
the blocks around that one.
-/

namespace ScriptedShell.Script

abbrev Refusal := String

namespace EarlyError

structure Block where
  number : Nat
  /-- The names that the block declares for itself. -/
  lexical : List String := []
  /-- The name that a handler's own block may not declare again. -/
  caught : Option String := none

abbrev Place := List Nat

structure Context where
  blocks : List Block := [⟨0, [], none⟩]
  blockCount : Nat := 1
  /-- Where the names that belong to the whole function, or to all scripts, stand first. -/
  wide : List (String × Place) := []
  parameters : List String := []
  outermost : Bool

def Context.place (context : Context) : Place :=
  context.blocks.map Block.number

def Context.isBody (context : Context) : Bool :=
  context.blocks.length == 1

/-- A name stands first in the innermost block, or in a block inside of it. -/
def Context.standsInside (context : Context) (name : String) : Bool :=
  (context.wide.lookup name).any fun place => context.place.isSuffixOf place

abbrev Check := StateT Context (Except Refusal)

def redeclaredLexical : Refusal := "invalid redefinition of lexical identifier"

def redeclaredWide (outermost : Bool) : Refusal :=
  if outermost then "invalid redefinition of global identifier"
  else "invalid redefinition of a variable"

def isRestricted (name : String) : Bool :=
  name == "eval" || name == "arguments"

/-- A name that a block cannot declare for itself. -/
def isWideOnly (name : String) : Bool :=
  name == "undefined"

def isReserved (name : String) : Bool :=
  reservedWords.contains name

def checkName (name : String) : Check Unit :=
  if valueWords.contains name || !isReserved name then pure ()
  else if name == "yield" then throw "unexpected 'yield' keyword"
  else throw ("unexpected token in expression: '" ++ name ++ "'")

def noteWide (name : String) : Check Unit :=
  modify fun context =>
    match context.wide.lookup name with
    | some _ => context
    | none => { context with wide := (name, context.place) :: context.wide }

def noteLexical (name : String) : Check Unit := do
  modify fun context =>
    match context.blocks with
    | [] => context
    | block :: rest =>
      { context with blocks := { block with lexical := name :: block.lexical } :: rest }
  let context ← get
  if context.outermost && context.isBody then noteWide name

def declareLexical (name : String) : Check Unit := do
  let context ← get
  let taken := context.blocks.head?.any fun block =>
    block.lexical.contains name || block.caught == some name
  if taken then throw redeclaredLexical
  else if context.isBody && context.parameters.contains name then
    throw "invalid redefinition of parameter name"
  else if context.standsInside name then throw (redeclaredWide context.outermost)
  else noteLexical name

def declareWide (name : String) : Check Unit := do
  let context ← get
  if context.blocks.any fun block => block.lexical.contains name then throw redeclaredLexical
  else noteWide name

def inBlock (lexical : List String) (caught : Option String) (check : Check Unit) : Check Unit := do
  modify fun context =>
    { context with
      blocks := ⟨context.blockCount, lexical, caught⟩ :: context.blocks
      blockCount := context.blockCount + 1 }
  check
  modify fun context => { context with blocks := context.blocks.tail }

def inFunction (head : FunctionHead) (body : Check Unit) : Check Unit := do
  for parameter in head.parameters do
    if isRestricted parameter then throw "invalid argument name in strict code"
  let context ← get
  set { parameters := head.parameters, outermost := false : Context }
  body
  set context

/-- Checks a declared function. In a block its name is declared before the body is read, elsewhere
after it: there it belongs to the whole function, like a `var`. -/
def declareFunction (name : String) (head : FunctionHead) (body : Check Unit) : Check Unit := do
  if isReserved name then throw "function name expected"
  let context ← get
  unless context.isBody do declareLexical name
  if isRestricted name then throw "invalid function name in strict code"
  inFunction head body
  if context.isBody then
    if context.outermost then noteWide name else declareWide name

def declareName (kind : DeclarationKind) (name : String) : Check Unit := do
  if isReserved name then throw "variable name expected"
  else if isRestricted name then throw "invalid variable name in strict mode"
  else
    match kind with
    | .wide => declareWide name
    | .narrow | .fixed =>
      if isWideOnly name then throw "invalid lexical variable name" else declareLexical name

mutual

def checkExpression : Expression → Check Unit
  | .literal _ => pure ()
  | .name name => checkName name
  | .array items => checkExpressions items
  | .object entries => checkEntries entries
  | .function head body => inFunction head (checkStatements body)
  | .add left right | .subtract left right | .strictlyEqual left right | .lessThan left right => do
    checkExpression left
    checkExpression right
  | .not operand | .negate operand | .typeOf operand => checkExpression operand
  | .member left right | .hasMember left right => do
    checkExpression left
    checkExpression right
  | .call callee arguments | .construct callee arguments => do
    checkExpression callee
    checkExpressions arguments

def checkExpressions : List Expression → Check Unit
  | [] => pure ()
  | expression :: rest => do
    checkExpression expression
    checkExpressions rest

def checkEntry : Entry → Check Unit
  | .value key value => do
    checkExpression key
    checkExpression value
  | .getter key head body => do
    checkExpression key
    inFunction head (checkStatements body)

def checkEntries : List Entry → Check Unit
  | [] => pure ()
  | entry :: rest => do
    checkEntry entry
    checkEntries rest

def checkStatement : Statement → Check Unit
  | .evaluate value | .raise value => checkExpression value
  | .assign name value => do
    if name == "let" then throw "variable name expected"
    checkName name
    if isRestricted name then throw "invalid lvalue in strict mode"
    checkExpression value
  | .answer value => do
    let context ← get
    if context.outermost then throw "return not in a function" else checkExpression value
  | .declare kind name value => do
    declareName kind name
    checkExpression value
  | .setMember object key value => do
    checkExpression object
    checkExpression key
    checkExpression value
  | .deleteMember object key => do
    checkExpression object
    checkExpression key
  | .function name head body => declareFunction name head (checkStatements body)
  | .branch condition whenTrue whenFalse => do
    checkExpression condition
    inBlock [] none (checkStatements whenTrue)
    inBlock [] none (checkStatements whenFalse)
  | .attempt body caught handler => do
    inBlock [] none (checkStatements body)
    inBlock [] caught (checkStatements handler)
  | .count counter limit body =>
    inBlock [counter] none do
      checkExpression limit
      inBlock [] none (checkStatements body)

def checkStatements : List Statement → Check Unit
  | [] => pure ()
  | statement :: rest => do
    checkStatement statement
    checkStatements rest

end

end EarlyError

end ScriptedShell.Script
