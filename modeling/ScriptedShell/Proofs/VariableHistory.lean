import ScriptedShell.CommandLine
import ScriptedShell.Proofs.CommandRun

/-!
What is done to the variables of a shell, as a list that grows with each update. A variable has the
value that was written last, whoever wrote it, and there is a variable for each name that was written
or declared.
-/

namespace ScriptedShell

namespace Table

variable {α : Type}

theorem findEntry_eq_some_iff {entries : List (String × α)} (sorted : Sorted entries)
    (name : String) (value : α) :
    findEntry name entries = some value ↔ (name, value) ∈ entries := by
  induction entries with
  | nil => simp [findEntry]
  | cons head rest ih =>
      obtain ⟨key, old⟩ := head
      rw [Sorted, List.pairwise_cons] at sorted
      simp only [findEntry, List.mem_cons, Prod.mk.injEq]
      by_cases same : name = key
      · -- The rest holds later names only.
        subst same
        have absent : (name, value) ∉ rest :=
          fun member => NamePrecedes.irrefl name (sorted.1 _ member)
        simp [absent, eq_comm]
      · simp [same, ih sorted.2]

theorem find?_eq_some_iff (table : Table α) (name : String) (value : α) :
    table.find? name = some value ↔ (name, value) ∈ table.entries :=
  findEntry_eq_some_iff table.sorted name value

theorem contains_insert (table : Table α) (name other : String) (value : α) :
    (table.insert name value).contains other = (decide (other = name) || table.contains other) := by
  by_cases same : other = name
  · simp [contains, find?_insert, same]
  · simp [contains, find?_insert, same]

end Table

inductive Update where
  | assign (name value : String)
  | declare (name : String)
  | markExported (name : String)
deriving DecidableEq, Repr

namespace Update

def apply (update : Update) (bindings : Variables) : Variables :=
  match update with
  | .assign name value => bindings.assign name value
  | .declare name => bindings.declare name
  | .markExported name => bindings.markExported name

/-- What an update writes to a name. Only an assignment writes anything. -/
def written? (name : String) : Update → Option String
  | .assign other value => if name = other then some value else none
  | .declare _ | .markExported _ => none

def creates (name : String) : Update → Bool
  | .assign other _ | .declare other => name = other
  | .markExported _ => false

end Update

/-- The most recent write to a name. -/
def latest? (name : String) (updates : List Update) : Option String :=
  (updates.filterMap (Update.written? name)).getLast?

theorem latest?_cons (name : String) (update : Update) (rest : List Update) :
    latest? name (update :: rest) = (latest? name rest).or (update.written? name) := by
  cases written : update.written? name with
  | none => simp [latest?, written]
  | some value =>
      rw [latest?, List.filterMap_cons_some written, List.getLast?_cons, latest?]
      cases (rest.filterMap (Update.written? name)).getLast? with
      | none => rfl
      | some later => rfl

theorem latest?_append (name : String) (first second : List Update) :
    latest? name (first ++ second) = (latest? name second).or (latest? name first) := by
  rw [latest?, List.filterMap_append, List.getLast?_append]
  rfl

namespace Variables

def update (bindings : Variables) (updates : List Update) : Variables :=
  updates.foldl (fun bindings update => update.apply bindings) bindings

theorem update_append (bindings : Variables) (first second : List Update) :
    bindings.update (first ++ second) = (bindings.update first).update second :=
  List.foldl_append

theorem value?_declare (bindings : Variables) (name other : String) :
    (bindings.declare name).value? other = bindings.value? other := by
  unfold declare
  cases found : bindings.find? name with
  | some entry => rfl
  | none =>
      by_cases same : other = name
      · subst same
        simp [value?, Table.find?_insert, found]
      · simp [value?, Table.find?_insert, same]

theorem value?_markExported (bindings : Variables) (name other : String) :
    (bindings.markExported name).value? other = bindings.value? other := by
  unfold markExported
  cases found : bindings.find? name with
  | none => rfl
  | some entry =>
      by_cases same : other = name
      · subst same
        simp [value?, Table.find?_insert, found, Variable.markExported]
      · simp [value?, Table.find?_insert, same]

theorem value?_apply (bindings : Variables) (update : Update) (name : String) :
    (update.apply bindings).value? name = (update.written? name).or (bindings.value? name) := by
  cases update with
  | assign other value =>
      rw [Update.apply, value?_assign, Update.written?]
      split
      · rfl
      · rfl
  | declare other => exact bindings.value?_declare other name
  | markExported other => exact bindings.value?_markExported other name

theorem value?_update (bindings : Variables) (updates : List Update) (name : String) :
    (bindings.update updates).value? name = (latest? name updates).or (bindings.value? name) := by
  induction updates generalizing bindings with
  | nil => rfl
  | cons update rest ih =>
      have begun : bindings.update (update :: rest) = (update.apply bindings).update rest := rfl
      rw [begun, ih, value?_apply, latest?_cons, Option.or_assoc]

theorem contains_apply (bindings : Variables) (update : Update) (name : String) :
    (update.apply bindings).contains name = (update.creates name || bindings.contains name) := by
  cases update with
  | assign other value =>
      rw [Update.apply, assign, Table.contains_insert, Update.creates]
  | declare other =>
      rw [Update.apply, declare, Update.creates]
      cases found : bindings.find? other with
      | none => exact bindings.contains_insert other name _
      | some entry =>
          by_cases same : name = other
          · simp [Table.contains, same, found]
          · simp [same]
  | markExported other =>
      rw [Update.apply, markExported, Update.creates]
      cases found : bindings.find? other with
      | none => rfl
      | some entry =>
          simp only [Table.contains_insert, Bool.false_or]
          by_cases same : name = other
          · simp [Table.contains, same, found]
          · simp [same]

theorem contains_update (bindings : Variables) (updates : List Update) (name : String) :
    (bindings.update updates).contains name =
      (updates.any (Update.creates name) || bindings.contains name) := by
  induction updates generalizing bindings with
  | nil => rfl
  | cons update rest ih =>
      have begun : bindings.update (update :: rest) = (update.apply bindings).update rest := rfl
      rw [begun, ih, contains_apply, List.any_cons]
      cases update.creates name with
      | true => simp
      | false => simp

end Variables

def Shell.updatesOf (shell : Shell) : List (String × String) → List Update
  | [] => []
  | (name, value) :: rest =>
    let expanded := shell.expandText value
    .assign name expanded :: (shell.assign name expanded).updatesOf rest

theorem Shell.bindings_assignAll (assignments : List (String × String)) (shell : Shell) :
    (shell.assignAll assignments).bindings = shell.bindings.update (shell.updatesOf assignments) := by
  induction assignments generalizing shell with
  | nil => rfl
  | cons first rest ih => exact ih _

def importUpdates (environment : List (String × String)) : List Update :=
  (environment.filter fun entry => entry.1 ≠ Shell.versionVariable).flatMap fun entry =>
    [.assign entry.1 entry.2, .markExported entry.1]

theorem CommandLine.importEnvironment_eq (environment : List (String × String)) (shell : Shell) :
    importEnvironment shell environment =
      { shell with bindings := shell.bindings.update (importUpdates environment) } := by
  induction environment generalizing shell with
  | nil => rfl
  | cons first rest ih =>
      obtain ⟨name, value⟩ := first
      have begun : importEnvironment shell ((name, value) :: rest) =
          importEnvironment
            (if name = Shell.versionVariable then shell
              else { shell with bindings := (shell.bindings.assign name value).markExported name })
            rest := rfl
      by_cases own : name = Shell.versionVariable
      · have same : importUpdates ((name, value) :: rest) = importUpdates rest := by
          simp [importUpdates, own]
        rw [begun, if_pos own, same, ih]
      · have same : importUpdates ((name, value) :: rest) =
            [.assign name value, .markExported name] ++ importUpdates rest := by
          simp [importUpdates, own]
        rw [begun, if_neg own, same, Variables.update_append, ih]
        rfl

end ScriptedShell
