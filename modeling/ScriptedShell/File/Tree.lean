/-!
A tree of files. Looking a path up follows it name by name, as an operating system does, and every
refusal is one of the causes in `FileError`.
-/

namespace ScriptedShell

inductive FileError where
  | notFound
  | permissionDenied
  | notADirectory
  | isADirectory
  | nameTooLong
  | notUtf8
  | nulInPath
deriving DecidableEq, Repr

def FileError.message : FileError → String
  | .notFound => "No such file or directory (os error 2)"
  | .permissionDenied => "Permission denied (os error 13)"
  | .notADirectory => "Not a directory (os error 20)"
  | .isADirectory => "Is a directory (os error 21)"
  | .nameTooLong => "File name too long (os error 36)"
  | .notUtf8 => "stream did not contain valid UTF-8"
  | .nulInPath => "file name contained an unexpected NUL byte"

inductive FileNode where
  | directory
  | file (bytes : ByteArray)
  /-- The device that reads as empty and forgets what is written to it. -/
  | null
  | program

/-- The nodes below the root, each under the names that lead to it, and where relative paths
start. -/
structure FileTree where
  nodes : List (List String × FileNode)
  workingDirectory : List String

namespace FileTree

def longestName : Nat := 255

def pathLimit : Nat := 4096

def bare : FileTree where
  nodes :=
    [(["dev"], .directory), (["dev", "null"], .null), (["bin"], .directory),
      (["bin", "sh"], .program), (["usr"], .directory), (["usr", "bin"], .directory),
      (["usr", "bin", "sh"], .program), (["work"], .directory)]
  workingDirectory := ["work"]

def node? (tree : FileTree) (path : List String) : Option FileNode :=
  if path = [] then some .directory else tree.nodes.lookup path

def put (tree : FileTree) (path : List String) (node : FileNode) : FileTree :=
  { tree with nodes := (path, node) :: tree.nodes.filter fun entry => entry.1 ≠ path }

/-- What a path leads to: a node, or a free place in a directory. -/
inductive Place where
  | present (path : List String) (node : FileNode)
  | free (path : List String)

def follow (tree : FileTree) (current : List String) : List String → Except FileError Place
  | [] =>
    match tree.node? current with
    | some node => .ok (.present current node)
    | none => .error .notFound
  | name :: rest =>
    match tree.node? current with
    | some .directory =>
      if name = "." then tree.follow current rest
      else if name = ".." then tree.follow current.dropLast rest
      else if longestName < name.utf8ByteSize then .error .nameTooLong
      else if (tree.node? (current ++ [name])).isSome then tree.follow (current ++ [name]) rest
      else if rest.isEmpty then .ok (.free (current ++ [name]))
      else .error .notFound
    | some _ => .error .notADirectory
    | none => .error .notFound

/-- The names in a path. A slash at the end asks for a directory, as the name `.` does. -/
def pathNames (path : String) : List String :=
  let names := (path.splitOn "/").filter (· ≠ "")
  if path.endsWith "/" then names ++ ["."] else names

def base (tree : FileTree) (path : String) : List String :=
  if path.startsWith "/" then [] else tree.workingDirectory

def locate (tree : FileTree) (path : String) : Except FileError Place :=
  if path.toList.contains '\x00' then .error .nulInPath
  else if path = "" then .error .notFound
  else if pathLimit ≤ path.utf8ByteSize then .error .nameTooLong
  else tree.follow (tree.base path) (pathNames path)

def read (tree : FileTree) (path : String) : Except FileError ByteArray :=
  match tree.locate path with
  | .ok (.present _ (.file bytes)) => .ok bytes
  | .ok (.present _ .null) => .ok .empty
  | .ok (.present _ .directory) => .error .isADirectory
  | .ok (.present _ .program) => .error .notUtf8
  | .ok (.free _) => .error .notFound
  | .error error => .error error

def readText (tree : FileTree) (path : String) : Except FileError String := do
  match String.fromUTF8? (← tree.read path) with
  | some text => .ok text
  | none => .error .notUtf8

theorem readText_of_read {tree : FileTree} {path text : String}
    (read : tree.read path = .ok text.toUTF8) : tree.readText path = .ok text := by
  have decoded : String.fromUTF8? text.toUTF8 = some text := dif_pos text.isValidUTF8
  simp only [readText, read]
  change (match String.fromUTF8? text.toUTF8 with
    | some text => Except.ok text
    | none => .error FileError.notUtf8) = .ok text
  rw [decoded]

/-- What keeps a path with a slash at the end from being created. The directories above it are looked
up first; its last name is not. -/
def refusal (tree : FileTree) (path : String) : FileError :=
  let names := (path.splitOn "/").filter (· ≠ "")
  match tree.follow (tree.base path) (names.dropLast ++ ["."]) with
  | .error error => error
  | .ok _ => .isADirectory

def write (tree : FileTree) (path : String) (bytes : ByteArray) : Except FileError FileTree :=
  if path.toList.contains '\x00' then .error .nulInPath
  else if pathLimit ≤ path.utf8ByteSize then .error .nameTooLong
  else if path.endsWith "/" then .error (tree.refusal path)
  else
    match tree.locate path with
    | .ok (.free names) => .ok (tree.put names (.file bytes))
    | .ok (.present names (.file _)) => .ok (tree.put names (.file bytes))
    | .ok (.present _ .null) => .ok tree
    | .ok (.present _ .directory) => .error .isADirectory
    | .ok (.present _ .program) => .error .permissionDenied
    | .error error => .error error

def execute (tree : FileTree) (path : String) : Except FileError Unit :=
  match tree.locate path with
  | .ok (.present _ .program) => .ok ()
  | .ok (.present _ _) => .error .permissionDenied
  | .ok (.free _) => .error .notFound
  | .error error => .error error

def supply (tree : FileTree) (path : String) (bytes : ByteArray) : FileTree :=
  let names := tree.base path ++ (path.splitOn "/").filter (fun name => name ≠ "" ∧ name ≠ ".")
  let above := (List.range names.length).drop 1 |>.map names.take
  let withDirectories := above.foldl
    (fun known directory =>
      if (known.node? directory).isSome then known else known.put directory .directory) tree
  withDirectories.put names (.file bytes)

end FileTree

end ScriptedShell
