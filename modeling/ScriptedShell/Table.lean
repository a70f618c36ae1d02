/-!
Tables from names to values, kept in the order of the names' UTF-8 bytes, each name once.
`find?_insert` says what a write does to every look-up.
-/

namespace ScriptedShell

def nameBytes (name : String) : List UInt8 :=
  name.toByteArray.data.toList

def NamePrecedes (left right : String) : Prop :=
  nameBytes left < nameBytes right

instance : DecidableRel NamePrecedes :=
  fun left right => inferInstanceAs (Decidable (nameBytes left < nameBytes right))

theorem nameBytes_injective {left right : String} (same : nameBytes left = nameBytes right) :
    left = right :=
  String.toByteArray_inj.mp (ByteArray.ext (Array.toList_inj.mp same))

theorem NamePrecedes.trans {first second third : String} (low : NamePrecedes first second)
    (high : NamePrecedes second third) : NamePrecedes first third :=
  have : Trans (α := UInt8) (β := UInt8) (γ := UInt8) (· < ·) (· < ·) (· < ·) := ⟨UInt8.lt_trans⟩
  List.lt_trans low high

theorem NamePrecedes.irrefl (name : String) : ¬ NamePrecedes name name :=
  List.lt_irrefl _

theorem NamePrecedes.of_not {left right : String} (different : left ≠ right)
    (notBefore : ¬ NamePrecedes left right) : NamePrecedes right left := by
  apply Decidable.byContradiction
  intro notAfter
  exact different (nameBytes_injective
    (List.le_antisymm (List.not_lt.mp notAfter) (List.not_lt.mp notBefore)))

namespace Table

variable {α : Type}

def insertEntry (name : String) (value : α) : List (String × α) → List (String × α)
  | [] => [(name, value)]
  | (key, old) :: rest =>
    if name = key then (name, value) :: rest
    else if NamePrecedes name key then (name, value) :: (key, old) :: rest
    else (key, old) :: insertEntry name value rest

def findEntry (name : String) : List (String × α) → Option α
  | [] => none
  | (key, value) :: rest => if name = key then some value else findEntry name rest

abbrev Sorted (entries : List (String × α)) : Prop :=
  entries.Pairwise fun left right => NamePrecedes left.1 right.1

theorem mem_insertEntry {name : String} {value : α} {entries : List (String × α)}
    {entry : String × α} (member : entry ∈ insertEntry name value entries) :
    entry = (name, value) ∨ entry ∈ entries := by
  induction entries with
  | nil => simpa [insertEntry] using member
  | cons head rest ih =>
    simp only [insertEntry] at member
    split at member
    · simp only [List.mem_cons] at member ⊢
      exact member.imp id Or.inr
    · split at member
      · simpa using member
      · simp only [List.mem_cons] at member ⊢
        rcases member with rfl | member
        · exact Or.inr (Or.inl rfl)
        · exact (ih member).imp id Or.inr

theorem sorted_insertEntry (name : String) (value : α) {entries : List (String × α)}
    (sorted : Sorted entries) : Sorted (insertEntry name value entries) := by
  induction entries with
  | nil => simp [insertEntry]
  | cons head rest ih =>
    obtain ⟨key, old⟩ := head
    rw [Sorted, List.pairwise_cons] at sorted
    simp only [insertEntry]
    split
    case isTrue same =>
      subst same
      exact List.pairwise_cons.mpr sorted
    case isFalse different =>
      split
      case isTrue before =>
        refine List.pairwise_cons.mpr ⟨?_, List.pairwise_cons.mpr sorted⟩
        intro entry member
        rcases List.mem_cons.mp member with rfl | member
        · exact before
        · exact before.trans (sorted.1 entry member)
      case isFalse notBefore =>
        refine List.pairwise_cons.mpr ⟨?_, ih sorted.2⟩
        intro entry member
        rcases mem_insertEntry member with rfl | member
        · exact .of_not different notBefore
        · exact sorted.1 entry member

theorem findEntry_insertEntry (name other : String) (value : α) (entries : List (String × α)) :
    findEntry other (insertEntry name value entries) =
      if other = name then some value else findEntry other entries := by
  induction entries with
  | nil => simp [insertEntry, findEntry]
  | cons head rest ih =>
    obtain ⟨key, old⟩ := head
    simp only [insertEntry]
    split
    case isTrue same =>
      subst same
      simp only [findEntry]
      split <;> rfl
    case isFalse different =>
      split
      · simp [findEntry]
      · simp only [findEntry, ih]
        grind

end Table

structure Table (α : Type) where
  entries : List (String × α)
  sorted : Table.Sorted entries

namespace Table

variable {α : Type}

def empty : Table α :=
  ⟨[], List.Pairwise.nil⟩

instance : EmptyCollection (Table α) := ⟨empty⟩

instance : Inhabited (Table α) := ⟨empty⟩

def find? (table : Table α) (name : String) : Option α :=
  findEntry name table.entries

def contains (table : Table α) (name : String) : Bool :=
  (table.find? name).isSome

def insert (table : Table α) (name : String) (value : α) : Table α :=
  ⟨insertEntry name value table.entries, sorted_insertEntry name value table.sorted⟩

def ofList (entries : List (String × α)) : Table α :=
  entries.foldl (fun table (name, value) => table.insert name value) ∅

@[ext]
theorem ext {left right : Table α} (same : left.entries = right.entries) : left = right := by
  cases left
  cases right
  cases same
  rfl

@[simp]
theorem find?_empty (name : String) : (∅ : Table α).find? name = none :=
  rfl

theorem find?_insert (table : Table α) (name other : String) (value : α) :
    (table.insert name value).find? other = if other = name then some value else table.find? other :=
  findEntry_insertEntry name other value table.entries

end Table

end ScriptedShell
