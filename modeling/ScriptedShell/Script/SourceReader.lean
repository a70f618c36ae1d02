import ScriptedShell.Script.EarlyError
import ScriptedShell.Script.Token

/-!
Reading a script's text. A text that is no script is refused with the message for what was met first;
forms of the language that the trees do not have are told apart from those.
-/

namespace ScriptedShell.Script.SourceReader

structure Failure where
  problem : Problem
  line : Nat

structure State where
  source : List Char
  tokens : List Token
  /-- Where the last token that was taken ends, and its line. -/
  stop : Nat := 0
  line : Nat := 1

abbrev Reader := StateT State (Except Failure)

def fail {α : Type} (problem : Problem) : Reader α := do
  let state ← get
  throw ⟨problem, (state.tokens.head?.map Token.line).getD state.line⟩

def refuse {α : Type} (message : String) : Reader α :=
  fail (.refused message)

def unsupported {α : Type} (form : String) : Reader α :=
  fail (.unsupported form)

def peek : Reader (Option TokenKind) := do
  match (← get).tokens with
  | [] => return none
  | token :: _ =>
    match token.kind with
    | .invalid problem => fail problem
    | kind => return some kind

def skip : Reader Unit :=
  modify fun state =>
    match state.tokens with
    | [] => state
    | token :: rest => { state with tokens := rest, stop := token.stop, line := token.line }

def start : Reader Nat := do
  let state ← get
  return (state.tokens.head?.map Token.start).getD state.source.length

def lineHere : Reader Nat := do
  let state ← get
  return (state.tokens.head?.map Token.line).getD state.line

def textFrom (place : Nat) : Reader String := do
  let state ← get
  return String.ofList ((state.source.drop place).take (state.stop - place))

def nextIsMark (mark : String) : Reader Bool := do
  match ← peek with
  | some (.mark text) => return text == mark
  | _ => return false

def nextIsWord (word : String) : Reader Bool := do
  match ← peek with
  | some (.word text) => return text == word
  | _ => return false

def takeMark (mark : String) : Reader Bool := do
  if ← nextIsMark mark then
    skip
    return true
  else return false

def takeWord (word : String) : Reader Bool := do
  if ← nextIsWord word then
    skip
    return true
  else return false

/-- What only forms of the language start with that are not read here. -/
def foreignStarts : List String :=
  ["this", "super", "class", "import", "export", "async", "void", "delete", "while", "do", "switch",
    "break", "continue", "debugger", "/", "/=", "`", "++", "--", "~", "+", "...", "#", "@", "\\"]

def foreignEnds : List String :=
  ["instanceof", "of", "*", "/", "%", "&", "|", "^", ">", ">=", "<=", "==", "!=", "&&", "||", "??",
    "?", "?.", "++", "--", "+=", "-=", "*=", "/=", "%=", "&=", "|=", "^=", "**", "**=", "<<", ">>",
    ">>>", "<<=", ">>=", ">>>=", "&&=", "||=", "??=", "=>", "`", ",", "="]

def spelling : Option TokenKind → String
  | some (.word text) => text
  | some (.mark text) => text
  | _ => ""

def nextIsForeign (spellings : List String) : Reader Bool := do
  return spellings.contains (spelling (← peek))

/-- Refuses what comes next, unless it belongs to a form that is not read here. -/
def refuseNext {α : Type} (foreign : List String) (message : String) : Reader α := do
  if ← nextIsForeign foreign then unsupported (spelling (← peek)) else refuse message

def expectMark (mark : String) : Reader Unit := do
  unless ← takeMark mark do
    refuseNext foreignEnds ("expecting '" ++ mark ++ "'")

def unexpected {α : Type} : Reader α := do
  let state ← get
  let text := (state.tokens.head?.map fun token =>
    String.ofList ((state.source.drop token.start).take (token.stop - token.start))).getD ""
  refuseNext foreignStarts ("unexpected token in expression: '" ++ text ++ "'")

/-- A statement ends at a semicolon, before a closing brace, at the end of a line or at the end of
the text. -/
def endStatement : Reader Unit := do
  unless ← takeMark ";" do
    if ← nextIsForeign foreignEnds then unsupported (spelling (← peek))
    else
      match (← get).tokens with
      | [] => return
      | token :: _ =>
        if token.afterLineEnd then return
        else if ← nextIsMark "\x7d" then return
        else refuse "expecting ';'"

def endsHere : Reader Bool := do
  match (← get).tokens with
  | [] => return true
  | token :: _ =>
    if token.afterLineEnd then return true
    else return (← nextIsMark ";") || (← nextIsMark "\x7d")

def readName (missing : String) : Reader String := do
  match ← peek with
  | some (.word text) =>
    skip
    return text
  | some (.mark "[") => unsupported "["
  | some (.mark "\x7b") => unsupported "\x7b"
  | _ => refuse missing

def readItems {α : Type} (item : Reader α) (close : String) : Nat → Reader (List α)
  | 0 => return []
  | fuel + 1 => do
    if ← takeMark close then return []
    else
      let first ← item
      if ← takeMark close then return [first]
      else
        unless ← takeMark "," do refuseNext foreignEnds ("expecting ','")
        let rest ← readItems item close fuel
        return first :: rest

def readParameter : Reader String := do
  match ← peek with
  | some (.word text) =>
    if reservedWords.contains text then refuse "missing formal parameter" else skip
    return text
  | _ => unsupported "parameter"

def readParameters (fuel : Nat) : Reader (List String) := do
  expectMark "("
  let parameters ← readItems readParameter ")" fuel
  if parameters.eraseDups.length < parameters.length then unsupported "parameter" else return parameters

def behindParentheses : Nat → List Token → List Token
  | _, [] => []
  | depth, token :: rest =>
    match token.kind with
    | .mark "(" => behindParentheses (depth + 1) rest
    | .mark ")" => if depth ≤ 1 then rest else behindParentheses (depth - 1) rest
    | _ => behindParentheses depth rest

def startsWithArrow : List Token → Bool
  | ⟨.mark mark, _, _, _, _⟩ :: _ => mark == "=>"
  | _ => false

/-- Whether the next tokens are the parameters of an arrow function. -/
def nextIsArrow : Reader Bool := do
  match (← get).tokens with
  | ⟨.word _, _, _, _, _⟩ :: rest => return startsWithArrow rest
  | ⟨.mark "(", _, _, _, _⟩ :: rest => return startsWithArrow (behindParentheses 1 rest)
  | _ => return false

def isNoName (word : String) : Bool :=
  word != "yield" && (reservedWords.contains word || foreignStarts.contains word)

def plainKey : Option TokenKind → Option Expression
  | some (.word name) => some (.text name)
  | some (.text units) => some (.literal (.text units))
  | some (.number value) => some (.literal (.number value))
  | _ => none

def isWholeKey : Option TokenKind → Bool
  | some (.mark mark) => [":", ",", "(", "\x7d"].contains mark
  | _ => false

mutual

def readPrimary : Nat → Reader Expression
  | 0 => unsupported "nesting"
  | fuel + 1 => do
    match ← peek with
    | some (.number value) =>
      skip
      return .literal (.number value)
    | some (.whole value) =>
      skip
      return .literal (.bigint value)
    | some (.text units) =>
      skip
      return .literal (.text units)
    | some (.word "null") =>
      skip
      return .literal .null
    | some (.word "true") =>
      skip
      return .literal (.boolean true)
    | some (.word "false") =>
      skip
      return .literal (.boolean false)
    | some (.word "function") =>
      let place ← start
      let line ← lineHere
      skip
      if ← nextIsMark "(" then
        let (parameters, body) ← readFunction fuel
        return .function ⟨.ordinary, parameters, ← textFrom place, line⟩ body
      else unsupported "function"
    | some (.word "new") =>
      skip
      let callee ← readPrimary fuel
      let callee ← readMembers fuel callee
      let arguments ← if ← takeMark "(" then readItems (readExpression fuel) ")" fuel else pure []
      return .construct callee arguments
    | some (.word word) =>
      if isNoName word then unexpected
      else
        skip
        return .name word
    | some (.mark "(") =>
      skip
      let inner ← readExpression fuel
      expectMark ")"
      return inner
    | some (.mark "[") =>
      skip
      if ← nextIsMark "," then unsupported ","
      return .array (← readItems (readExpression fuel) "]" fuel)
    | some (.mark "\x7b") =>
      skip
      return .object (← readItems (readEntry fuel) "\x7d" fuel)
    | _ => unexpected

def readMembers : Nat → Expression → Reader Expression
  | 0, _ => unsupported "nesting"
  | fuel + 1, expression => do
    if ← takeMark "." then
      match ← peek with
      | some (.word name) =>
        skip
        readMembers fuel (.memberNamed expression name)
      | _ => refuseNext ["#"] "expecting field name"
    else if ← takeMark "[" then
      let key ← readExpression fuel
      expectMark "]"
      readMembers fuel (.member expression key)
    else return expression

def readSuffixes : Nat → Expression → Reader Expression
  | 0, _ => unsupported "nesting"
  | fuel + 1, expression => do
    let callee ← readMembers fuel expression
    if ← takeMark "(" then
      let arguments ← readItems (readExpression fuel) ")" fuel
      readSuffixes fuel (.call callee arguments)
    else return callee

def readOperand : Nat → Reader Expression
  | 0 => unsupported "nesting"
  | fuel + 1 => do
    if ← takeMark "!" then return .not (← readOperand fuel)
    else if ← takeMark "-" then return .negate (← readOperand fuel)
    else if ← takeWord "typeof" then return .typeOf (← readOperand fuel)
    else readSuffixes fuel (← readPrimary fuel)

def readSum : Nat → Expression → Reader Expression
  | 0, _ => unsupported "nesting"
  | fuel + 1, left => do
    if ← takeMark "+" then readSum fuel (.add left (← readOperand fuel))
    else if ← takeMark "-" then readSum fuel (.subtract left (← readOperand fuel))
    else return left

def readRelation : Nat → Expression → Reader Expression
  | 0, _ => unsupported "nesting"
  | fuel + 1, left => do
    if ← takeMark "<" then readRelation fuel (.lessThan left (← readSum fuel (← readOperand fuel)))
    else if ← takeWord "in" then
      readRelation fuel (.hasMember left (← readSum fuel (← readOperand fuel)))
    else return left

def readEquality : Nat → Expression → Reader Expression
  | 0, _ => unsupported "nesting"
  | fuel + 1, left => do
    if ← takeMark "===" then return ← readEquality fuel (.strictlyEqual left (← readSide fuel))
    else if ← takeMark "!==" then
      return ← readEquality fuel (.not (.strictlyEqual left (← readSide fuel)))
    else return left

def readSide : Nat → Reader Expression
  | 0 => unsupported "nesting"
  | fuel + 1 => do readRelation fuel (← readSum fuel (← readOperand fuel))

def readExpression : Nat → Reader Expression
  | 0 => unsupported "nesting"
  | fuel + 1 => do
    if ← nextIsArrow then readArrow fuel else readEquality fuel (← readSide fuel)

def readArrow : Nat → Reader Expression
  | 0 => unsupported "nesting"
  | fuel + 1 => do
    let place ← start
    let line ← lineHere
    let parameters ← if ← nextIsMark "(" then readParameters fuel else do pure [← readParameter]
    expectMark "=>"
    let body ← if ← takeMark "\x7b" then readBlock fuel else do
      pure [.answer (← readExpression fuel)]
    return .function ⟨.arrow, parameters, ← textFrom place, line⟩ body

def readFunction : Nat → Reader (List String × List Statement)
  | 0 => unsupported "nesting"
  | fuel + 1 => do
    let parameters ← readParameters fuel
    expectMark "\x7b"
    return (parameters, ← readBlock fuel)

def readKey : Nat → Reader Expression
  | 0 => unsupported "nesting"
  | fuel + 1 => do
    if ← takeMark "[" then
      let key ← readExpression fuel
      expectMark "]"
      return key
    else
      match plainKey (← peek) with
      | some key =>
        skip
        return key
      | none => refuseNext ["*", "...", "#"] "invalid property name"

def readEntry : Nat → Reader Entry
  | 0 => unsupported "nesting"
  | fuel + 1 => do
    let place ← start
    let line ← lineHere
    let kind ← peek
    let computed ← nextIsMark "["
    let key ← readKey fuel
    let next ← peek
    match kind with
    | some (.word word) =>
      if (word == "get" || word == "set" || word == "async") && !isWholeKey next then
        if word == "get" then
          let key ← readKey fuel
          let (parameters, body) ← readFunction fuel
          return .getter key ⟨.method, parameters, ← textFrom place, line⟩ body
        else unsupported word
      else if (← nextIsMark ",") || (← nextIsMark "\x7d") then return .value key (.name word)
      else readEntryValue fuel place line computed key
    | _ => readEntryValue fuel place line computed key

def readEntryValue : Nat → Nat → Nat → Bool → Expression → Reader Entry
  | 0, _, _, _, _ => unsupported "nesting"
  | fuel + 1, place, line, computed, key => do
    if ← nextIsMark "(" then
      let (parameters, body) ← readFunction fuel
      return .value key (.function ⟨.method, parameters, ← textFrom place, line⟩ body)
    else
      let givesPrototype := match key with
        | .literal (.text units) => !computed && units == Utf16.encode "__proto__"
        | _ => false
      if givesPrototype then unsupported "__proto__"
      expectMark ":"
      return .value key (← readExpression fuel)

def readDeclaration : Nat → DeclarationKind → Reader Statement
  | 0, _ => unsupported "nesting"
  | fuel + 1, kind => do
    let name ← readName "variable name expected"
    if ← takeMark "=" then
      let value ← readExpression fuel
      endStatement
      return .declare kind name value
    else if kind = .fixed then refuse "missing initializer for const variable"
    else
      endStatement
      return .declare kind name (.literal .undefined)

def readEvaluation : Nat → Reader Statement
  | 0 => unsupported "nesting"
  | fuel + 1 => do
    let target ← readExpression fuel
    if ← takeMark "=" then
      let value ← readExpression fuel
      endStatement
      match target with
      | .name name => return .assign name value
      | .member object key => return .setMember object key value
      | _ => refuse "invalid assignment left-hand side"
    else
      let isLabel := match target with
        | .name _ => true
        | _ => false
      if isLabel && (← nextIsMark ":") then unsupported ":"
      endStatement
      return .evaluate target

def readDeletion : Nat → Reader Statement
  | 0 => unsupported "nesting"
  | fuel + 1 => do
    match ← readOperand fuel with
    | .member object key =>
      endStatement
      return .deleteMember object key
    | _ => unsupported "delete"

def readBranch : Nat → Reader (List Statement)
  | 0 => unsupported "nesting"
  | fuel + 1 => do if ← takeMark "\x7b" then readBlock fuel else return [← readStatement fuel]

def readAttempt : Nat → Reader Statement
  | 0 => unsupported "nesting"
  | fuel + 1 => do
    expectMark "\x7b"
    let body ← readBlock fuel
    unless ← takeWord "catch" do refuseNext ["finally"] "expecting catch or finally"
    let caught ← if ← takeMark "(" then do
        let name ← readName "identifier expected"
        expectMark ")"
        pure (some name)
      else pure none
    expectMark "\x7b"
    let handler ← readBlock fuel
    if ← nextIsWord "finally" then unsupported "finally" else return .attempt body caught handler

def readCount : Nat → Reader Statement
  | 0 => unsupported "nesting"
  | fuel + 1 => do
    let zero := fun (kind : Option TokenKind) => match kind with
      | some (.number value) => value == 0.0
      | _ => false
    let required := fun (met : Bool) => if met then pure () else (unsupported "for" : Reader Unit)
    required (← takeMark "(")
    required (← takeWord "let")
    let counter ← readName "variable name expected"
    required (← takeMark "=")
    required (zero (← peek))
    skip
    required (← takeMark ";")
    required (← takeWord counter)
    required (← takeMark "<")
    let limit ← readSum fuel (← readOperand fuel)
    required (← takeMark ";")
    required (← takeWord counter)
    required (← takeMark "++")
    required (← takeMark ")")
    required (← takeMark "\x7b")
    return .count counter limit (← readBlock fuel)

def readStatement : Nat → Reader Statement
  | 0 => unsupported "nesting"
  | fuel + 1 => do
    let place ← start
    let line ← lineHere
    match ← peek with
    | some (.mark ";") =>
      skip
      return .evaluate (.literal .undefined)
    | some (.mark "\x7b") =>
      skip
      return .branch (.literal (.boolean true)) (← readBlock fuel) []
    | some (.word "var") =>
      skip
      readDeclaration fuel .wide
    | some (.word "let") =>
      skip
      readDeclaration fuel .narrow
    | some (.word "const") =>
      skip
      readDeclaration fuel .fixed
    | some (.word "throw") =>
      skip
      let value ← readExpression fuel
      endStatement
      return .raise value
    | some (.word "return") =>
      skip
      let value ← if ← endsHere then pure (.literal .undefined) else readExpression fuel
      endStatement
      return .answer value
    | some (.word "delete") =>
      skip
      readDeletion fuel
    | some (.word "with") => refuse "invalid keyword: with"
    | some (.word "function") =>
      skip
      if ← nextIsMark "*" then unsupported "*"
      let name ← readName "function name expected"
      let (parameters, body) ← readFunction fuel
      return .function name ⟨.ordinary, parameters, ← textFrom place, line⟩ body
    | some (.word "if") =>
      skip
      expectMark "("
      let condition ← readExpression fuel
      expectMark ")"
      let whenTrue ← readBranch fuel
      let whenFalse ← if ← takeWord "else" then readBranch fuel else pure []
      return .branch condition whenTrue whenFalse
    | some (.word "try") =>
      skip
      readAttempt fuel
    | some (.word "for") =>
      skip
      readCount fuel
    | _ => readEvaluation fuel

def readBlock : Nat → Reader (List Statement)
  | 0 => unsupported "nesting"
  | fuel + 1 => do
    if ← takeMark "\x7d" then return []
    else
      let statement ← readStatement fuel
      return statement :: (← readBlock fuel)

end

/-- The statements of a chunk. Each is checked when it has been read. -/
def readStatements : Nat → EarlyError.Context → Reader (List Statement)
  | 0, _ => unsupported "nesting"
  | fuel + 1, context => do
    match ← peek with
    | none => return []
    | some _ =>
      let statement ← readStatement fuel
      match (EarlyError.checkStatement statement).run context with
      | .ok (_, context) => return statement :: (← readStatements fuel context)
      | .error refusal => throw ⟨.refused refusal, (← get).line⟩

def read (text : String) : Except Failure (List Statement) :=
  let source := text.toList
  let tokens := Token.ofText source
  match (readStatements (12 * tokens.length + 12) { outermost := true }).run { source, tokens } with
  | .ok (statements, _) => .ok statements
  | .error failure => .error failure

end ScriptedShell.Script.SourceReader
