import Mathlib.Data.String.Basic
import ScriptedShell.File.Tree

/-!
Looking a path up in a tree of files. What is written to a path is found there, and a path of one name leads to
what the working directory holds under that name.
-/

namespace ScriptedShell

namespace FileTree

theorem lookup_filter_ne {target other : List String} (different : other ≠ target)
    (nodes : List (List String × FileNode)) :
    (nodes.filter fun entry => entry.1 ≠ target).lookup other = nodes.lookup other := by
  induction nodes with
  | nil => rfl
  | cons entry rest ih =>
      obtain ⟨path, node⟩ := entry
      by_cases same : path = target
      · subst same
        have noMatch : (other == path) = false := beq_eq_false_iff_ne.mpr different
        rw [List.filter_cons_of_neg (by simp), ih, List.lookup_cons, noMatch]
      · rw [List.filter_cons_of_pos (by simpa using same), List.lookup_cons, List.lookup_cons, ih]

theorem lookup_put (tree : FileTree) (target other : List String) (node : FileNode) :
    (tree.put target node).nodes.lookup other =
      if other = target then some node else tree.nodes.lookup other := by
  rw [put, List.lookup_cons]
  by_cases same : other = target
  · subst same
    simp
  · rw [beq_eq_false_iff_ne.mpr same, if_neg same]
    exact lookup_filter_ne same tree.nodes

theorem node?_put_self (tree : FileTree) {target : List String} (below : target ≠ [])
    (node : FileNode) : (tree.put target node).node? target = some node := by
  rw [node?, if_neg below, lookup_put, if_pos rfl]

theorem node?_put_other (tree : FileTree) {target other : List String} (different : other ≠ target)
    (node : FileNode) : (tree.put target node).node? other = tree.node? other := by
  rw [node?, node?, lookup_put, if_neg different]

def Place.target? : Place → Option (List String)
  | .free target => some target
  | .present target (.file _) => some target
  | .present _ _ => none

theorem follow_cons {tree : FileTree} {current rest : List String} {name : String} {place : Place}
    (followed : tree.follow current (name :: rest) = .ok place) :
    tree.node? current = some .directory ∧
      ((name = "." ∧ tree.follow current rest = .ok place) ∨
        (name ≠ "." ∧ name = ".." ∧ tree.follow current.dropLast rest = .ok place) ∨
        (name ≠ "." ∧ name ≠ ".." ∧ ¬ longestName < name.utf8ByteSize ∧
          ((tree.node? (current ++ [name])).isSome ∧ tree.follow (current ++ [name]) rest = .ok place ∨
            tree.node? (current ++ [name]) = none ∧ rest = [] ∧ place = .free (current ++ [name])))) := by
  rw [follow] at followed
  split at followed
  case h_2 => contradiction
  case h_3 => contradiction
  rename_i directory
  refine ⟨directory, ?_⟩
  split at followed
  case isTrue here => exact .inl ⟨here, followed⟩
  rename_i notHere
  split at followed
  case isTrue above => exact .inr (.inl ⟨notHere, above, followed⟩)
  rename_i notAbove
  split at followed
  case isTrue => contradiction
  rename_i short
  refine .inr (.inr ⟨notHere, notAbove, short, ?_⟩)
  split at followed
  case isTrue known => exact .inl ⟨known, followed⟩
  rename_i unknown
  split at followed
  case isFalse => contradiction
  rename_i last
  cases followed
  exact .inr ⟨by simpa using unknown, List.isEmpty_iff.mp last, rfl⟩

theorem follow_nil {tree : FileTree} {current : List String} {place : Place}
    (followed : tree.follow current [] = .ok place) :
    ∃ node, tree.node? current = some node ∧ place = .present current node := by
  rw [follow] at followed
  split at followed
  · rename_i node found
    cases followed
    exact ⟨node, found, rfl⟩
  · contradiction

theorem follow_target {tree : FileTree} {current names target : List String} {place : Place}
    (followed : tree.follow current names = .ok place) (writable : place.target? = some target) :
    target ≠ [] ∧ tree.node? target ≠ some .directory := by
  induction names generalizing current with
  | nil =>
      obtain ⟨node, found, rfl⟩ := follow_nil followed
      cases node with
      | file bytes =>
          cases writable
          refine ⟨?_, by rw [found]; nofun⟩
          rintro rfl
          rw [node?, if_pos rfl] at found
          exact nomatch found
      | _ => contradiction
  | cons name rest ih =>
      obtain ⟨_, ⟨_, onward⟩ | ⟨_, _, onward⟩ | ⟨_, _, _, ⟨_, onward⟩ | ⟨free, _, rfl⟩⟩⟩ :=
        follow_cons followed
      · exact ih onward
      · exact ih onward
      · exact ih onward
      · cases writable
        exact ⟨by simp, by rw [free]; nofun⟩

theorem follow_put {tree : FileTree} {current names target : List String} {place : Place}
    (followed : tree.follow current names = .ok place) (writable : place.target? = some target)
    (bytes : ByteArray) :
    (tree.put target (.file bytes)).follow current names = .ok (.present target (.file bytes)) := by
  obtain ⟨below, noDirectory⟩ := follow_target followed writable
  have written := node?_put_self tree below (.file bytes)
  induction names generalizing current with
  | nil =>
      obtain ⟨node, _, rfl⟩ := follow_nil followed
      cases node with
      | file old =>
          cases writable
          rw [follow, written]
      | _ => contradiction
  | cons name rest ih =>
      obtain ⟨directory, step⟩ := follow_cons followed
      have different : current ≠ target := by
        rintro rfl
        exact noDirectory directory
      rw [follow, node?_put_other tree different, directory]
      obtain ⟨here, onward⟩ | ⟨notHere, above, onward⟩ | ⟨notHere, notAbove, short, step⟩ := step
      · simpa only [if_pos here] using ih onward
      · simpa only [if_neg notHere, if_pos above] using ih onward
      have there : ((tree.put target (.file bytes)).node? (current ++ [name])).isSome = true := by
        by_cases reached : current ++ [name] = target
        · rw [reached, written]
          rfl
        · rw [node?_put_other tree reached]
          obtain ⟨known, _⟩ | ⟨_, _, rfl⟩ := step
          · exact known
          · exact absurd (Option.some.inj writable) reached
      simp only [if_neg notHere, if_neg notAbove, if_neg short, if_pos there]
      obtain ⟨_, onward⟩ | ⟨_, rfl, rfl⟩ := step
      · exact ih onward
      · cases writable
        rw [follow, written]

theorem locate_put {tree : FileTree} {path : String} {target : List String} {place : Place}
    (located : tree.locate path = .ok place) (writable : place.target? = some target)
    (bytes : ByteArray) :
    (tree.put target (.file bytes)).locate path = .ok (.present target (.file bytes)) := by
  rw [locate] at located ⊢
  split at located
  · contradiction
  split at located
  · contradiction
  split at located
  · contradiction
  rename_i noNul given short
  rw [if_neg noNul, if_neg given, if_neg short]
  exact follow_put located writable bytes

/-- What has been written to a path is read from it, if the path does not lead to the null device. -/
theorem read_of_write {tree after : FileTree} {path : String} {bytes : ByteArray}
    (written : tree.write path bytes = .ok after) :
    after.read path = .ok bytes ∨
      after = tree ∧ ∃ target, tree.locate path = .ok (.present target .null) := by
  rw [write] at written
  split at written
  · contradiction
  split at written
  · contradiction
  split at written
  · contradiction
  split at written
  · rename_i target located
    cases written
    left
    rw [read, locate_put located rfl]
  · rename_i target old located
    cases written
    left
    rw [read, locate_put located rfl]
  · rename_i target located
    cases written
    exact .inr ⟨rfl, target, located⟩
  all_goals contradiction

theorem readText_of_write {tree after : FileTree} {path text : String}
    (written : tree.write path text.toUTF8 = .ok after) :
    after.readText path = .ok text ∨
      after = tree ∧ ∃ target, tree.locate path = .ok (.present target .null) := by
  exact (read_of_write written).imp_left readText_of_read

def here (tree : FileTree) (name : String) : List String :=
  tree.workingDirectory ++ [name]

/-- Paths of one name that has no meaning of its own. -/
structure IsBareName (name : String) : Prop where
  given : name ≠ ""
  short : name.utf8ByteSize ≤ longestName
  noNul : ¬ name.toList.contains '\x00'
  noSlash : '/' ∉ name.toList
  notHere : name ≠ "."
  notAbove : name ≠ ".."

instance (name : String) : Decidable (IsBareName name) :=
  decidable_of_iff
    (name ≠ "" ∧ name.utf8ByteSize ≤ longestName ∧ ¬ name.toList.contains '\x00' ∧
      '/' ∉ name.toList ∧ name ≠ "." ∧ name ≠ "..")
    ⟨fun ⟨given, short, noNul, noSlash, notHere, notAbove⟩ =>
      ⟨given, short, noNul, noSlash, notHere, notAbove⟩,
    fun bare => ⟨bare.given, bare.short, bare.noNul, bare.noSlash, bare.notHere, bare.notAbove⟩⟩

theorem splitOnAux_noSlash (left : List Char) {right : List Char} (noSlash : '/' ∉ right) :
    (String.ofList (left ++ right)).splitOnAux "/" 0 ⟨String.utf8Len left⟩ 0 [] =
      [String.ofList (left ++ right)] := by
  induction right generalizing left with
  | nil =>
      have whole := String.extract_of_valid [] left []
      rw [String.splitOnAux, if_pos (by simp [String.atEnd_iff])]
      simpa using whole
  | cons character rest ih =>
      simp only [List.mem_cons, not_or] at noSlash
      have onward := ih (left ++ [character]) noSlash.2
      have further : ¬ (⟨String.utf8Len left⟩ : String.Pos.Raw).atEnd
          (String.ofList (left ++ character :: rest)) := by
        rw [String.atEnd_of_valid]
        exact List.cons_ne_nil character rest
      have separator : String.Pos.Raw.get "/" 0 = '/' := rfl
      have here : (⟨String.utf8Len left⟩ : String.Pos.Raw).unoffsetBy 0 =
          ⟨String.utf8Len left⟩ := rfl
      rw [String.splitOnAux, if_neg further, String.get_of_valid, separator,
        if_neg (by simpa using Ne.symm noSlash.1), here, String.next_of_valid]
      simpa only [List.append_assoc, List.singleton_append, String.utf8Len_append,
        String.utf8Len_cons, String.utf8Len_nil, Nat.zero_add] using onward

namespace IsBareName

variable {name : String}

theorem relative (bare : IsBareName name) : ¬ name.startsWith "/" := by
  rw [String.startsWith_string_iff]
  intro slash
  exact bare.noSlash (slash.subset (List.mem_singleton_self '/'))

theorem noFinalSlash (bare : IsBareName name) : ¬ name.endsWith "/" := by
  rw [String.endsWith, String.Slice.endsWith_string_iff]
  intro slash
  exact bare.noSlash (by simpa using slash.subset (List.mem_singleton_self '/'))

theorem splitOn_eq (bare : IsBareName name) : name.splitOn "/" = [name] := by
  have alone := splitOnAux_noSlash [] bare.noSlash
  rwa [List.nil_append, String.ofList_toList] at alone

theorem pathNames_eq (bare : IsBareName name) : pathNames name = [name] := by
  rw [pathNames, bare.splitOn_eq, if_neg bare.noFinalSlash]
  simp [bare.given]

theorem locate_eq (bare : IsBareName name) (tree : FileTree) :
    tree.locate name = tree.follow tree.workingDirectory [name] := by
  have withinLimit : ¬ pathLimit ≤ name.utf8ByteSize :=
    Nat.not_le.mpr (Nat.lt_of_le_of_lt bare.short (by decide))
  rw [locate, if_neg bare.noNul, if_neg bare.given, if_neg withinLimit, base, if_neg bare.relative,
    bare.pathNames_eq]

end IsBareName

variable (tree : FileTree) {name : String}

theorem here_ne_workingDirectory (name : String) : tree.workingDirectory ≠ tree.here name := by
  simp [here]

def readNode (directory node : Option FileNode) : Except FileError ByteArray :=
  match directory with
  | some .directory =>
    match node with
    | some (.file bytes) => .ok bytes
    | some .null => .ok .empty
    | some .directory => .error .isADirectory
    | some .program => .error .notUtf8
    | none => .error .notFound
  | some _ => .error .notADirectory
  | none => .error .notFound

theorem read_bare (bare : IsBareName name) :
    tree.read name =
      readNode (tree.node? tree.workingDirectory) (tree.node? (tree.here name)) := by
  rw [read, bare.locate_eq, follow]
  cases tree.node? tree.workingDirectory with
  | none => rfl
  | some node =>
      cases node with
      | directory =>
          simp only [if_neg bare.notHere, if_neg bare.notAbove, if_neg (Nat.not_lt.mpr bare.short)]
          cases found : tree.node? (tree.here name) with
          | none => simp only [here] at found; simp [found, readNode]
          | some node =>
              simp only [here] at found
              cases node <;> simp [found, readNode, follow]
      | _ => rfl

end FileTree

end ScriptedShell
