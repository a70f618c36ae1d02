import ScriptedShell.Script.Tree

/-!
The names that statements declare. A `var` belongs to the whole function, from whatever block it
stands in; `let`, `const` and functions belong to the list of statements they stand in.
-/

namespace ScriptedShell.Script

inductive Declaration where
  | wide (name : String)
  | lexical (name : String) (fixed : Bool)
  | function (name : String) (head : FunctionHead) (body : List Statement)
deriving Inhabited

def Declaration.name : Declaration → String
  | .wide name => name
  | .lexical name _ => name
  | .function name _ _ => name

mutual

def Statement.wideNames : Statement → List String
  | .declare .wide name _ => [name]
  | .branch _ whenTrue whenFalse => wideNamesOf whenTrue ++ wideNamesOf whenFalse
  | .attempt body _ handler => wideNamesOf body ++ wideNamesOf handler
  | .count _ _ body => wideNamesOf body
  | _ => []

def wideNamesOf : List Statement → List String
  | [] => []
  | statement :: rest => statement.wideNames ++ wideNamesOf rest

end

/-- What a statement declares in the list it stands in. -/
def Statement.declared : Statement → Option Declaration
  | .declare .narrow name _ => some (.lexical name false)
  | .declare .fixed name _ => some (.lexical name true)
  | .function name head body => some (.function name head body)
  | _ => none

def declarationsOf (statements : List Statement) : List Declaration :=
  statements.flatMap fun statement =>
    match statement.declared with
    | some declaration => [declaration]
    | none => statement.wideNames.map Declaration.wide

def blockDeclarations (statements : List Statement) : List Declaration :=
  statements.filterMap Statement.declared

end ScriptedShell.Script
