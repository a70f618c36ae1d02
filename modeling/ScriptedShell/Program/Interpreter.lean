import ScriptedShell.Table
import ScriptedShell.Word.Lexer
import ScriptedShell.Word.Template

/-!
The command interpreter that child processes run: simple commands joined by `;`, newlines, `&&`
and `||`, with the built-in commands `exit`, `kill`, `echo`, `test` and the trivial ones.
-/

namespace ScriptedShell.Interpreter

inductive Ending where
  | exited (code : Nat)
  | signalled (signal : Nat)
deriving DecidableEq, Repr

structure Result where
  ending : Ending
  output : String
  diagnostics : String
deriving DecidableEq, Repr

inductive Connector where
  | always
  | ifSuccess
  | ifFailure
deriving DecidableEq, Repr

inductive Quoting where
  | bare
  | single
  | double
deriving DecidableEq, Repr

def splitCommands (quoting : Quoting) (connector : Connector) (current : String) :
    List Char → List (Connector × String)
  | [] => [(connector, current)]
  | '\\' :: next :: rest =>
    if quoting = .single then
      if next = '\'' then splitCommands .bare connector ((current.push '\\').push '\'') rest
      else splitCommands quoting connector ((current.push '\\').push next) rest
    else splitCommands quoting connector ((current.push '\\').push next) rest
  | '&' :: '&' :: rest =>
    if quoting = .bare then (connector, current) :: splitCommands .bare .ifSuccess "" rest
    else splitCommands quoting connector (current ++ "&&") rest
  | '|' :: '|' :: rest =>
    if quoting = .bare then (connector, current) :: splitCommands .bare .ifFailure "" rest
    else splitCommands quoting connector (current ++ "||") rest
  | character :: rest =>
    if quoting = .bare then
      if character = ';' ∨ character = '\n' then
        (connector, current) :: splitCommands .bare .always "" rest
      else
        let inner := if character = '\'' then Quoting.single
          else if character = '"' then .double else .bare
        splitCommands inner connector (current.push character) rest
    else if (quoting = .single ∧ character = '\'') ∨ (quoting = .double ∧ character = '"') then
      splitCommands .bare connector (current.push character) rest
    else splitCommands quoting connector (current.push character) rest

structure State where
  bindings : Table String
  arguments : List String
  code : Nat := 0
  output : String := ""
  diagnostics : String := ""
  ending : Option Ending := none

def processNumber : String := "2"

def State.parameter (state : State) (name : String) : String :=
  if name = "?" then toString state.code
  else if name = "$" then processNumber
  else if name = "#" then toString (state.arguments.length - 1)
  else if name = "@" ∨ name = "*" then " ".intercalate (state.arguments.drop 1)
  else match name.toNat? with
    | some index => state.arguments.getD index ""
    | none => (state.bindings.find? name).getD ""

def fillPieces (state : State) : List Piece → String
  | .dollar :: .dollar :: rest => processNumber ++ fillPieces state rest
  | piece :: rest => piece.value state.parameter ++ fillPieces state rest
  | [] => ""

/-- The fields of a word: an unquoted word is cut at the blanks that its references bring in. -/
def fields (state : State) (word : Word) : List String :=
  if !word.flags.hasDollar || word.flags.noExpand then [word.text]
  else
    let filled := fillPieces state (Template.read word.text)
    if word.flags.quoted then [filled]
    else ((filled.splitToList fun character =>
      character = ' ' ∨ character = '\t' ∨ character = '\n').filter (· ≠ ""))

def lastSignal : Nat := 64

def signalNumber (name : String) : Option Nat :=
  match name with
  | "HUP" => some 1
  | "INT" => some 2
  | "QUIT" => some 3
  | "ABRT" => some 6
  | "KILL" => some 9
  | "USR1" => some 10
  | "SEGV" => some 11
  | "USR2" => some 12
  | "PIPE" => some 13
  | "ALRM" => some 14
  | "TERM" => some 15
  | _ => name.toNat?.filter (· ≤ lastSignal)

def State.fail (state : State) (code : Nat) (text : String) : State :=
  { state with code, diagnostics := state.diagnostics ++ "sh: 1: " ++ text ++ "\n" }

def kill (state : State) (signal target : String) : State :=
  match signalNumber signal with
  | none => state.fail 1 ("kill: invalid signal number or name: " ++ signal)
  | some 0 => { state with code := 0 }
  | some number =>
    if target = processNumber then { state with ending := some (.signalled number) }
    else state.fail 1 "kill: No such process"

def testHolds : List String → Option Bool
  | [] => some false
  | [text] => some (text ≠ "")
  | "!" :: rest => (testHolds rest).map (!·)
  | ["-z", text] => some (text = "")
  | ["-n", text] => some (text ≠ "")
  | [left, "=", right] => some (left = right)
  | [left, "!=", right] => some (left ≠ right)
  | [left, operator, right] =>
    match left.toInt?, right.toInt? with
    | some first, some second =>
      match operator with
      | "-eq" => some (first = second)
      | "-ne" => some (first ≠ second)
      | "-lt" => some (first < second)
      | "-le" => some (first ≤ second)
      | "-gt" => some (second < first)
      | "-ge" => some (second ≤ first)
      | _ => none
    | _, _ => none
  | _ => none

def test (state : State) (operands : List String) : State :=
  match testHolds operands with
  | some true => { state with code := 0 }
  | some false => { state with code := 1 }
  | none => state.fail 2 "test: unexpected operator"

def runFields (state : State) : List String → State
  | [] => { state with code := 0 }
  | "exit" :: rest =>
    match rest with
    | [] => { state with ending := some (.exited state.code) }
    | operand :: _ =>
      match operand.toNat? with
      | some code => { state with ending := some (.exited (code % 256)) }
      | none =>
        { state.fail 2 ("exit: Illegal number: " ++ operand) with ending := some (.exited 2) }
  | "echo" :: "-n" :: rest =>
    { state with code := 0, output := state.output ++ " ".intercalate rest }
  | "echo" :: rest =>
    { state with code := 0, output := state.output ++ " ".intercalate rest ++ "\n" }
  | ["kill", "-s", signal, target] => kill state signal target
  | ["kill", first, target] =>
    if first.startsWith "-" then kill state (first.drop 1).toString target
    else kill state "TERM" target
  | ["kill", target] => kill state "TERM" target
  | "true" :: _ | ":" :: _ => { state with code := 0 }
  | "false" :: _ => { state with code := 1 }
  | "test" :: operands => test state operands
  | "[" :: operands =>
    if operands.getLast? = some "]" then test state operands.dropLast
    else state.fail 2 "[: missing ]"
  | name :: _ => state.fail 127 (name ++ ": not found")

def runCommand (state : State) (text : String) : State :=
  match lexLine text with
  | .error _ =>
    { state with
      diagnostics := state.diagnostics ++ "sh: 1: Syntax error: Unterminated quoted string\n"
      ending := some (.exited 2) }
  | .ok [] => state
  | .ok words =>
    if words.all fun word => (word.assignment?).isSome then
      words.foldl (fun state word =>
        match word.assignment? with
        | some (name, value) =>
          let field := fillPieces state (Template.read value)
          { state with bindings := state.bindings.insert name field, code := 0 }
        | none => state) state
    else runFields state (words.flatMap (fields state))

def runScript (state : State) (script : String) : State :=
  (splitCommands .bare .always "" script.toList).foldl (fun state (connector, text) =>
    if state.ending.isSome then state
    else match connector with
      | .always => runCommand state text
      | .ifSuccess => if state.code = 0 then runCommand state text else state
      | .ifFailure => if state.code = 0 then state else runCommand state text) state

def State.result (state : State) : Result where
  ending := state.ending.getD (.exited state.code)
  output := state.output
  diagnostics := state.diagnostics

/-- Runs the interpreter with its own arguments, in an environment, with nothing to read. A script
file is given by its text, if it can be read. -/
def run (readScript : String → Option String) (environment : Table String)
    (arguments : List String) : Result :=
  match arguments with
  | [] => ⟨.exited 0, "", ""⟩
  | ["-c"] => ⟨.exited 2, "", "sh: 0: -c requires an argument\n"⟩
  | "-c" :: script :: rest =>
    let name := if rest.isEmpty then ["sh"] else rest
    (runScript { bindings := environment, arguments := name } script).result
  | path :: rest =>
    match readScript path with
    | some script =>
      (runScript { bindings := environment, arguments := path :: rest } script).result
    | none => ⟨.exited 2, "", "sh: 0: cannot open " ++ path ++ ": No such file\n"⟩

end ScriptedShell.Interpreter
