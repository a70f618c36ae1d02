import ScriptedShell.Proofs.ScriptView

/-!
Actions that only read and change the heap of an engine, and what they find there: properties along a
chain of prototypes, and objects that stay as they are while others are added.
-/

namespace ScriptedShell.Script

def Action.Throws {α : Type} (action : Action α) (engine : Engine) : Prop :=
  ∃ (thrown : Value) (after : Engine), action engine = .done (.thrown thrown, after)

namespace Action

variable {α β : Type} {engine middle last : Engine}

theorem Returns.inFrame {action : Action α} {frame : Frame} {value : α}
    (ran : action.Returns { engine with frames := frame :: engine.frames } value last) :
    (Action.inFrame frame action).Returns engine value { last with frames := last.frames.tail } := by
  exact .bind (.change _) (.bind (.outcome ran) (.bind (.change _) (Returns.pure value)))

theorem Throws.bind {action : Action α} (next : α → Action β) (throws : action.Throws engine) :
    (action >>= next).Throws engine := by
  obtain ⟨thrown, after, ended⟩ := throws
  exact ⟨thrown, after, bind_of_thrown ended next⟩

theorem Throws.after {action : Action α} {next : α → Action β} {value : α}
    (first : action.Returns engine value middle) (rest : (next value).Throws middle) :
    (action >>= next).Throws engine := by
  obtain ⟨thrown, after, ended⟩ := rest
  exact ⟨thrown, after, (first.bind_eq next).trans ended⟩

end Action

theorem lookup_cons_eq_ite {κ α : Type} [DecidableEq κ] (key other : κ) (value : α)
    (rest : List (κ × α)) :
    ((key, value) :: rest).lookup other = if other = key then some value else rest.lookup other := by
  by_cases same : other = key <;> simp [List.lookup_cons, same, beq_eq_false_iff_ne.mpr]

theorem lookup_replaceEntry {κ α : Type} [DecidableEq κ] (key other : κ) (value : α)
    (entries : List (κ × α)) :
    (replaceEntry key value entries).lookup other =
      if other = key then some value else entries.lookup other := by
  induction entries with
  | nil => rw [replaceEntry, lookup_cons_eq_ite]
  | cons head rest ih =>
      obtain ⟨first, old⟩ := head
      rw [replaceEntry]
      split
      · rename_i found
        subst found
        rw [lookup_cons_eq_ite, lookup_cons_eq_ite]
        split <;> rfl
      · rename_i different
        rw [lookup_cons_eq_ite, lookup_cons_eq_ite, ih]
        by_cases same : other = first
        · rw [if_pos same, if_pos same, if_neg (same ▸ different)]
        · rw [if_neg same, if_neg same]

namespace ScriptObject

variable {object : ScriptObject}

theorem own?_plain (plain : object.objectClass = .plain) (key : PropertyKey) :
    object.own? key = object.properties.lookup key := by
  rw [own?, plain]

theorem own?_put (plain : object.objectClass = .plain) (key other : PropertyKey)
    (property : Property) :
    (object.put key property).own? other =
      if other = key then some property else object.own? other := by
  have still : (object.put key property).objectClass = .plain := plain
  rw [own?_plain still, own?_plain plain]
  exact lookup_replaceEntry key other property object.properties

end ScriptObject

def Property.isWritable (property : Property) : Bool :=
  match property.slot with
  | .value _ writable => writable
  | _ => false

namespace Engine

variable {engine : Engine} {id : ObjectId} {key : PropertyKey} {property : Property}

theorem object_outside (outside : engine.objects.size ≤ id) : engine.object id = default := by
  simp [object, Array.getD, Nat.not_lt.mpr outside]

theorem bound_of_own (own : (engine.object id).own? key = some property) :
    id < engine.objects.size := by
  refine Nat.lt_of_not_le fun outside => ?_
  rw [object_outside outside] at own
  contradiction

theorem bound_of_builtin {builtin : Builtin}
    (known : (engine.object id).objectClass = .builtin builtin) : id < engine.objects.size := by
  refine Nat.lt_of_not_le fun outside => ?_
  rw [object_outside outside] at known
  contradiction

theorem object_alter_of_ne {other : ObjectId} (different : other ≠ id)
    (f : ScriptObject → ScriptObject) : (engine.alter id f).object other = engine.object other := by
  simp only [object, alter, Array.getD_eq_getD_getElem?, Array.getElem?_modify]
  simp [Ne.symm different]

theorem alter_congr {f g : ScriptObject → ScriptObject}
    (same : f (engine.object id) = g (engine.object id)) : engine.alter id f = engine.alter id g := by
  have objects : engine.objects.modify id f = engine.objects.modify id g := by
    apply Array.ext
    · simp
    · intro index left right
      by_cases here : id = index
      · subst here
        have bound : id < engine.objects.size := by simpa using left
        have found : engine.object id = engine.objects[id] := by
          simp [object, Array.getD, bound]
        rw [found] at same
        simpa [Array.getElem_modify] using same
      · simp [Array.getElem_modify, here]
  rw [alter, alter, objects]

theorem object_allocate_self (engine : Engine) (object : ScriptObject) :
    (engine.allocate object).2.object engine.objects.size = object := by
  simp [allocate, Engine.object, Array.getD]

theorem object_allocate_of_lt (bound : id < engine.objects.size) (object : ScriptObject) :
    (engine.allocate object).2.object id = engine.object id := by
  simp [allocate, Engine.object, Array.getD, Array.getElem_push, bound, Nat.lt_succ_of_lt bound]

theorem object_put (bound : id < engine.objects.size) (key : PropertyKey) (property : Property) :
    (engine.put id key property).object id = (engine.object id).put key property :=
  object_alter bound _

theorem own?_put (bound : id < engine.objects.size)
    (plain : (engine.object id).objectClass = .plain) (key other : PropertyKey)
    (property : Property) :
    ((engine.put id key property).object id).own? other =
      if other = key then some property else (engine.object id).own? other := by
  rw [object_put bound, ScriptObject.own?_put plain]

theorem search_up {key : PropertyKey} {id parent : ObjectId}
    (absent : (engine.object id).own? key = none)
    (above : (engine.object id).prototype = some parent) (steps : Nat) :
    findProperty.search engine key (steps + 1) id = findProperty.search engine key steps parent := by
  rw [findProperty.search, absent, above]
  rfl

theorem search_own {key : PropertyKey} {id : ObjectId} {property : Property}
    (own : (engine.object id).own? key = some property) (steps : Nat) :
    findProperty.search engine key (steps + 1) id = some (id, property) := by
  rw [findProperty.search, own]

theorem findProperty_own (own : (engine.object id).own? key = some property) :
    engine.findProperty id key = some (id, property) := by
  obtain ⟨steps, size⟩ := Nat.exists_eq_add_one_of_ne_zero (Nat.ne_zero_of_lt (bound_of_own own))
  rw [findProperty, size, findProperty.search, own]

theorem findProperty_within {within : ObjectId → Prop} {holder : ObjectId}
    (closed : ∀ id parent, within id → (engine.object id).prototype = some parent → within parent)
    (start : within id) (found : engine.findProperty id key = some (holder, property)) :
    within holder ∧ (engine.object holder).own? key = some property := by
  have searched : ∀ steps id, within id →
      findProperty.search engine key steps id = some (holder, property) →
      within holder ∧ (engine.object holder).own? key = some property := by
    intro steps
    induction steps with
    | zero => exact nofun
    | succ steps ih =>
        intro id start found
        rw [findProperty.search] at found
        split at found
        · rename_i own
          cases found
          exact ⟨start, own⟩
        · obtain ⟨parent, above, found⟩ := Option.bind_eq_some_iff.mp found
          exact ih parent (closed id parent start above) found
  exact searched _ id start found

theorem inherits_within {within : ObjectId → Prop} {ancestor : ObjectId}
    (closed : ∀ id parent, within id → (engine.object id).prototype = some parent → within parent)
    (start : within id) (inherits : engine.inherits id ancestor = true) : within ancestor := by
  have searched : ∀ steps id, within id →
      Engine.inherits.search engine ancestor steps id = true → within ancestor := by
    intro steps
    induction steps with
    | zero => exact nofun
    | succ steps ih =>
        intro id start inherits
        rw [Engine.inherits.search, Bool.or_eq_true] at inherits
        rcases inherits with same | above
        · exact beq_iff_eq.mp same ▸ start
        · split at above
          · rename_i parent found
            exact ih parent (closed id parent start found) above
          · contradiction
  exact searched _ id start inherits

/-- The second heap has all the objects of the first, and all but one as they were. -/
structure Keeps (except : ObjectId) (before after : Engine) : Prop where
  size : before.objects.size ≤ after.objects.size
  same : ∀ id < before.objects.size, id ≠ except → after.object id = before.object id

namespace Keeps

variable {except : ObjectId} {first second third : Engine}

theorem refl (except : ObjectId) (engine : Engine) : Keeps except engine engine :=
  ⟨Nat.le_refl _, fun _ _ _ => rfl⟩

theorem trans (earlier : Keeps except first second) (later : Keeps except second third) :
    Keeps except first third where
  size := Nat.le_trans earlier.size later.size
  same := by
    intro id bound different
    rw [later.same id (Nat.lt_of_lt_of_le bound earlier.size) different,
      earlier.same id bound different]

theorem alter (engine : Engine) (id : ObjectId) (f : ScriptObject → ScriptObject) :
    Keeps id engine (engine.alter id f) where
  size := by simp [Engine.alter]
  same := fun _ _ different => object_alter_of_ne different f

theorem allocate (except : ObjectId) (engine : Engine) (object : ScriptObject) :
    Keeps except engine (engine.allocate object).2 where
  size := by simp [Engine.allocate]
  same := fun _ bound _ => object_allocate_of_lt bound object

end Keeps

end Engine

theorem Action.Returns.allocate (engine : Engine) (object : ScriptObject) :
    Returns (Action.allocate object) engine (.object engine.objects.size)
      (engine.allocate object).2 :=
  rfl

namespace Member

variable {engine : Engine} {id : ObjectId} {key : PropertyKey}

/-- A property that is nowhere, or that can be assigned anew wherever it is, becomes one of the
object's own. -/
theorem assign_returns (call : Caller) (plain : (engine.object id).objectClass = .plain)
    (free : ∀ holder property, engine.findProperty id key = some (holder, property) →
      property.isWritable = true) (value : Value) :
    ∃ property : Property, property.slot = .value value true ∧
      (assign call (.object id) key value).Returns engine () (engine.put id key property) := by
  have looked : (find? id key).Returns engine (engine.findProperty id key) engine := .inspect _
  have noArray : (engine.object id).isArray = false := by
    rw [ScriptObject.isArray, plain]
  have added : (Action.change (·.alter id (add key (.plain value)))).Returns engine ()
      (engine.put id key (.plain value)) := by
    have same : engine.alter id (add key (.plain value)) = engine.put id key (.plain value) :=
      Engine.alter_congr (by simp only [add, noArray])
    rw [← same]
    exact .change _
  cases found : engine.findProperty id key with
  | none =>
      refine ⟨.plain value, rfl, .bind looked ?_⟩
      rw [found]
      exact added
  | some entry =>
      obtain ⟨holder, property⟩ := entry
      have writable := free holder property found
      obtain ⟨slot, enumerable, configurable⟩ := property
      cases slot with
      | accessor getter setter => contradiction
      | proxied reader writer => contradiction
      | value old free =>
          simp only [Property.isWritable] at writable
          subst writable
          by_cases own : holder = id
          · refine ⟨⟨.value value true, enumerable, configurable⟩, rfl, .bind looked ?_⟩
            rw [found]
            simp only [own, if_true]
            refine .bind (.inspect _) ?_
            rw [noArray, Bool.and_false, if_neg Bool.false_ne_true]
            exact .change _
          · refine ⟨.plain value, rfl, .bind looked ?_⟩
            rw [found]
            simp only [own, if_false]
            exact added

theorem assign_accessor (call : Caller) {holder setter : ObjectId} {getter : Option ObjectId}
    {property : Property} {value result : Value} {after : Engine}
    (found : engine.findProperty id key = some (holder, property))
    (slot : property.slot = .accessor getter (some setter))
    (called : (call (.object setter) (.object id) [value]).Returns engine result after) :
    (assign call (.object id) key value).Returns engine () after := by
  have looked : (find? id key).Returns engine (engine.findProperty id key) engine := .inspect _
  refine .bind looked ?_
  rw [found]
  simp only [slot]
  exact .bind called (.pure ())

end Member

theorem invoke_builtin [Library] {engine last : Engine} {id : ObjectId} {builtin : Builtin}
    (known : (engine.object id).objectClass = .builtin builtin) (home : builtin.isForeign = false)
    (fuel : Nat) (receiver : Value) (arguments : List Value) {value : Value}
    (ran : (callBuiltin (invoke fuel) builtin receiver arguments).Returns
      { engine with frames := .function id :: engine.frames } value last) :
    (invoke (fuel + 1) (.object id) receiver arguments).Returns engine value
      { last with frames := last.frames.tail } := by
  have framed := Action.Returns.inFrame ran
  rw [invoke]
  refine .bind (.inspect _) ?_
  simp only [known, home]
  exact framed

end ScriptedShell.Script
