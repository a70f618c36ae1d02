import ScriptedShell.Toml

/-!
Putting a TOML document together from its headers and its keys. A table can be opened by one header
only. Dotted keys pass through tables that no header has opened, and what they end in is a table that
dotted keys have made.
-/

namespace ScriptedShell.Toml

inductive TableOrigin where
  /-- The header of a table below it. -/
  | implied
  | header
  | dottedKey
deriving DecidableEq, Repr

inductive Node where
  | value (value : Toml)
  | table (origin : TableOrigin) (entries : List (String × Node))
  /-- The tables of a `[[header]]`, the last one open. -/
  | tables (closed : List Toml) (last : List (String × Node))

abbrev Entries := List (String × Node)

mutual

def Node.toToml : Node → Toml
  | .value value => value
  | .table _ entries => .table (entriesToToml entries)
  | .tables closed last => .array (closed ++ [.table (entriesToToml last)])

def entriesToToml : List (String × Node) → List (String × Toml)
  | [] => []
  | (key, node) :: rest => (key, node.toToml) :: entriesToToml rest

end

namespace Entries

def alter (key : String) (change : Option Node → Option Node) : Entries → Option Entries
  | [] => (change none).map fun node => [(key, node)]
  | (other, node) :: rest =>
    if other = key then (change (some node)).map fun node => (key, node) :: rest
    else (alter key change rest).map fun rest => (other, node) :: rest

/-- Adds a value under a key that may be dotted. `owned` says that the table may get keys: it is the
one that the header opened, or dotted keys have made it. -/
def insert (value : Toml) (owned : Bool) : List String → Entries → Option Entries
  | [], _ => none
  | [key], entries =>
    if owned then
      entries.alter key fun
        | none => some (.value value)
        | some _ => none
    else none
  | key :: rest, entries =>
    entries.alter key fun
      | none => (insert value true rest []).map (Node.table .dottedKey)
      | some (.table .header _) => none
      | some (.table origin inner) =>
        (insert value (origin == .dottedKey) rest inner).map (Node.table origin)
      | some (.tables closed last) => (insert value false rest last).map (Node.tables closed)
      | some (.value _) => none

/-- Changes the table that the path of a header leads to, making the tables on the way. -/
def descend (change : Entries → Option Entries) : List String → Entries → Option Entries
  | [], entries => change entries
  | key :: rest, entries =>
    entries.alter key fun
      | none => (descend change rest []).map (Node.table .implied)
      | some (.table origin inner) => (descend change rest inner).map (Node.table origin)
      | some (.tables closed last) => (descend change rest last).map (Node.tables closed)
      | some (.value _) => none

def openTable (key : String) (entries : Entries) : Option Entries :=
  entries.alter key fun
    | none => some (.table .header [])
    | some (.table .implied inner) => some (.table .header inner)
    | some _ => none

def openItem (key : String) (entries : Entries) : Option Entries :=
  entries.alter key fun
    | none => some (.tables [] [])
    | some (.tables closed last) =>
      some (.tables (closed ++ [.table (entriesToToml last)]) [])
    | some _ => none

end Entries

inductive Line where
  | entry (path : List String) (value : Toml)
  | header (path : List String) (repeated : Bool)

structure Document where
  root : Entries := []
  header : List String := []

def Document.add (document : Document) : Line → Option Document
  | .entry path value =>
    (document.root.descend (Entries.insert value true path) document.header).map fun root =>
      { document with root }
  | .header path repeated =>
    match path.getLast? with
    | none => none
    | some key =>
      let change := if repeated then Entries.openItem key else Entries.openTable key
      (document.root.descend change path.dropLast).map fun root => { root, header := path }

end ScriptedShell.Toml
