import ScriptedShell.Text.Blank
import ScriptedShell.Word

/-!
Cutting a line into words. The reader is an automaton: `step` takes one character, and
`Lexer.finish` says what the end of the line means, so a line can be studied piece by piece.
-/

namespace ScriptedShell

inductive LexError where
  | unclosedSingleQuote
  | unclosedDoubleQuote
deriving DecidableEq, Repr

def LexError.message : LexError → String
  | .unclosedSingleQuote => "unexpected EOF while looking for `''"
  | .unclosedDoubleQuote => "unexpected EOF while looking for `\"'"

namespace Lexer

/-- A word being read. A dollar is live when it may start a reference, dead when quoting or a
backslash keeps it from doing so. -/
structure Draft where
  text : String := ""
  quoted : Bool := false
  liveDollar : Bool := false
  deadDollar : Bool := false
deriving DecidableEq, Repr

namespace Draft

def addLive (draft : Draft) (character : Char) : Draft :=
  { draft with
    text := draft.text.push character
    liveDollar := draft.liveDollar || character == '$' }

def addDead (draft : Draft) (character : Char) : Draft :=
  { draft with
    text := draft.text.push character
    deadDollar := draft.deadDollar || character == '$' }

def quote (draft : Draft) : Draft :=
  { draft with quoted := true }

/-- One live dollar makes the whole text expandable; dead ones alone protect it. -/
def flags (draft : Draft) : WordFlags where
  hasDollar := draft.liveDollar
  quoted := draft.quoted
  assignment := isAssignmentText draft.text
  noExpand := !draft.liveDollar && draft.deadDollar

def word (draft : Draft) : Word :=
  ⟨draft.text, draft.flags⟩

end Draft

inductive Context where
  | bare
  | bareEscape
  | single
  | double
  | doubleEscape
deriving DecidableEq, Repr

inductive Mode where
  | between
  | comment
  | inside (context : Context) (draft : Draft)
deriving DecidableEq, Repr

structure State where
  words : List Word := []
  mode : Mode := .between
deriving DecidableEq, Repr

def stepBare (words : List Word) (draft : Draft) (character : Char) : State :=
  if isBlank character then ⟨words ++ [draft.word], .between⟩
  else if character = '\'' then ⟨words, .inside .single draft.quote⟩
  else if character = '"' then ⟨words, .inside .double draft.quote⟩
  else if character = '\\' then ⟨words, .inside .bareEscape draft.quote⟩
  else ⟨words, .inside .bare (draft.addLive character)⟩

/-- A backslash between double quotes protects only a double quote, a backslash or a dollar; before
any other character it stays in the text. -/
def unescape (draft : Draft) (character : Char) : Draft :=
  if character = '"' ∨ character = '\\' ∨ character = '$' then draft.addDead character
  else (draft.addDead '\\').addDead character

def step (state : State) (character : Char) : State :=
  match state.mode with
  | .comment => state
  | .between =>
    if isBlank character then state
    else if character = '#' then { state with mode := .comment }
    else stepBare state.words {} character
  | .inside .bare draft => stepBare state.words draft character
  | .inside .bareEscape draft =>
    { state with mode := .inside .bare (draft.addDead character) }
  | .inside .single draft =>
    if character = '\'' then { state with mode := .inside .bare draft }
    else { state with mode := .inside .single (draft.addDead character) }
  | .inside .double draft =>
    if character = '"' then { state with mode := .inside .bare draft }
    else if character = '\\' then { state with mode := .inside .doubleEscape draft }
    else { state with mode := .inside .double (draft.addLive character) }
  | .inside .doubleEscape draft =>
    { state with mode := .inside .double (unescape draft character) }

def finish (state : State) : Except LexError (List Word) :=
  match state.mode with
  | .between | .comment => .ok state.words
  | .inside .bare draft | .inside .bareEscape draft => .ok (state.words ++ [draft.word])
  | .inside .single _ => .error .unclosedSingleQuote
  | .inside .double _ | .inside .doubleEscape _ => .error .unclosedDoubleQuote

def scan (state : State) (characters : List Char) : State :=
  characters.foldl step state

end Lexer

/-- The words of a line; none for a blank line or a comment. -/
def lexLine (line : String) : Except LexError (List Word) :=
  Lexer.finish (Lexer.scan {} line.toList)

end ScriptedShell
