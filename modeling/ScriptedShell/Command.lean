import ScriptedShell.Word

/-!
Command records. A record is laid out in one of two shapes, and a shell runs only records of its
own shape. Whatever is asked of a record is asked of either.
-/

namespace ScriptedShell

inductive RecordShape where
  | version2
  | version3
deriving DecidableEq, Repr, Inhabited

namespace RecordShape

/-- The shape that a host of this version uses: only the first character counts. -/
def ofVersion? (version : String) : Option RecordShape :=
  match version.toList with
  | '2' :: _ => some .version2
  | first :: _ => if '3' ≤ first ∧ first ≤ '9' then some .version3 else none
  | [] => none

def name : RecordShape → String
  | .version2 => "version-2-shape"
  | .version3 => "version-3-shape"

end RecordShape

structure Redirection where
  descriptor : Int32
  target : String
deriving DecidableEq, Repr

structure CommandVersion2 where
  inverted : Bool := false
  words : List Word
  redirections : List Redirection := []
  /-- The line of the script it came from, for diagnostics; zero for none. -/
  line : Int32 := 0
deriving DecidableEq, Repr

structure CommandVersion3 where
  inverted : Bool := false
  line : Int32 := 0
  words : List Word
  redirections : List Redirection := []
deriving DecidableEq, Repr

inductive Command where
  | version2 (record : CommandVersion2)
  | version3 (record : CommandVersion3)
deriving DecidableEq, Repr

namespace Command

def ofWords (shape : RecordShape) (words : List Word) : Command :=
  match shape with
  | .version2 => .version2 { words }
  | .version3 => .version3 { words }

def shape : Command → RecordShape
  | .version2 _ => .version2
  | .version3 _ => .version3

def words : Command → List Word
  | .version2 record => record.words
  | .version3 record => record.words

def inverted : Command → Bool
  | .version2 record => record.inverted
  | .version3 record => record.inverted

def line : Command → Int32
  | .version2 record => record.line
  | .version3 record => record.line

def redirections : Command → List Redirection
  | .version2 record => record.redirections
  | .version3 record => record.redirections

def invert : Command → Command
  | .version2 record => .version2 { record with inverted := true }
  | .version3 record => .version3 { record with inverted := true }

def atLine (number : Int32) : Command → Command
  | .version2 record => .version2 { record with line := number }
  | .version3 record => .version3 { record with line := number }

def text (command : Command) : String :=
  Word.join command.words

variable (shape : RecordShape) (words : List Word) (number : Int32) (command : Command)

@[simp] theorem shape_ofWords : (ofWords shape words).shape = shape := by
  cases shape <;> rfl

@[simp] theorem words_ofWords : (ofWords shape words).words = words := by
  cases shape <;> rfl

@[simp] theorem inverted_ofWords : (ofWords shape words).inverted = false := by
  cases shape <;> rfl

@[simp] theorem line_ofWords : (ofWords shape words).line = 0 := by
  cases shape <;> rfl

@[simp] theorem redirections_ofWords : (ofWords shape words).redirections = [] := by
  cases shape <;> rfl

@[simp] theorem shape_invert : command.invert.shape = command.shape := by
  cases command <;> rfl

@[simp] theorem words_invert : command.invert.words = command.words := by
  cases command <;> rfl

@[simp] theorem inverted_invert : command.invert.inverted = true := by
  cases command <;> rfl

@[simp] theorem line_invert : command.invert.line = command.line := by
  cases command <;> rfl

@[simp] theorem redirections_invert : command.invert.redirections = command.redirections := by
  cases command <;> rfl

@[simp] theorem shape_atLine : (command.atLine number).shape = command.shape := by
  cases command <;> rfl

@[simp] theorem words_atLine : (command.atLine number).words = command.words := by
  cases command <;> rfl

@[simp] theorem inverted_atLine : (command.atLine number).inverted = command.inverted := by
  cases command <;> rfl

@[simp] theorem line_atLine : (command.atLine number).line = number := by
  cases command <;> rfl

@[simp] theorem redirections_atLine :
    (command.atLine number).redirections = command.redirections := by
  cases command <;> rfl

theorem invert_atLine : (command.atLine number).invert = command.invert.atLine number := by
  cases command <;> rfl

@[simp] theorem ofWords_atLine_zero : (ofWords shape words).atLine 0 = ofWords shape words := by
  cases shape <;> rfl

end Command

end ScriptedShell
