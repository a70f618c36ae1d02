import ScriptedShell.Proofs.Installation
import ScriptedShell.Script.Standard

/-!
A new engine is as installation needs it. The names that its global object does not give up are the only
ones under which a bridge's engine cannot be made.
-/

namespace ScriptedShell.Script

namespace Engine

def runs (engine : Engine) (id : ObjectId) (builtin : Builtin) : Bool :=
  match (engine.object id).objectClass with
  | .builtin function => function == builtin
  | _ => false

def objectOf? (property : Property) : Option ObjectId :=
  match property.slot with
  | .value (.object id) true => some id
  | _ => none

def isPlain (object : ScriptObject) : Bool :=
  match object.objectClass with
  | .plain => true
  | _ => false

/-- The facts that installation relies on, as a program can check them. -/
def isStandard (engine : Engine) : Bool :=
  let root := engine.object Intrinsic.objectPrototype
  let global := engine.object Intrinsic.global
  Intrinsic.global < engine.objects.size
    && isPlain root && isPlain global
    && root.prototype == none && global.prototype == some Intrinsic.objectPrototype
    && root.properties.all (fun (key, property) => property.isWritable || key == .named "__proto__")
    && global.properties.all (fun (key, property) =>
      property.isWritable || readOnlyNames.any fun name => key == .named name)
    && (global.own? (.named "__proto__")).isNone
    && readOnlyNames.all (fun name => (global.own? (.named name)).any fun property =>
      match property.slot with
      | .value _ writable => !writable
      | _ => false)
    && (root.own? (.named "__proto__")).any (fun property =>
      match property.slot with
      | .accessor (some getter) (some setter) =>
        engine.runs getter .readPrototype && engine.runs setter .writePrototype
      | _ => false)
    && ((global.own? (.named "Object")).bind objectOf?).any (fun object =>
      object != Intrinsic.global &&
        (((engine.object object).own? (.named "create")).bind objectOf?).any
          (engine.runs · .createObject))

theorem objectClass_of_runs {engine : Engine} {id : ObjectId} {builtin : Builtin}
    (runs : engine.runs id builtin = true) : (engine.object id).objectClass = .builtin builtin := by
  unfold Engine.runs at runs
  split at runs
  · rename_i known
    rw [known, beq_iff_eq.mp runs]
  · contradiction

theorem objectClass_of_isPlain {object : ScriptObject} (plain : isPlain object = true) :
    object.objectClass = .plain := by
  unfold isPlain at plain
  split at plain
  · assumption
  · contradiction

theorem slot_of_objectOf? {property : Property} {id : ObjectId}
    (value : objectOf? property = some id) : property.slot = .value (.object id) true := by
  unfold objectOf? at value
  split at value
  · rename_i found
    cases value
    exact found
  · contradiction

theorem holds_of_objectOf? {engine : Engine} {id value : ObjectId} {name : String}
    (found : ((engine.object id).own? (.named name)).bind objectOf? = some value) :
    engine.Holds id name (.object value) := by
  obtain ⟨property, own, slot⟩ := Option.bind_eq_some_iff.mp found
  exact ⟨property, own, slot_of_objectOf? slot⟩

theorem all_of_own {object : ScriptObject} {key : PropertyKey} {property : Property}
    {check : PropertyKey × Property → Bool} (plain : object.objectClass = .plain)
    (all : object.properties.all check = true) (own : object.own? key = some property) :
    check (key, property) = true := by
  rw [ScriptObject.own?_plain plain] at own
  obtain ⟨before, behind, split, _⟩ := List.lookup_eq_some_iff.mp own
  exact List.all_eq_true.mp all _ (split ▸ List.mem_append_right before List.mem_cons_self)

theorem free_of_all (excepted : PropertyKey → Bool) {object : ScriptObject}
    (plain : object.objectClass = .plain)
    (all : (object.properties.all fun entry => entry.2.isWritable || excepted entry.1) = true)
    (name : String) (property : Property) (own : object.own? (.named name) = some property)
    (ordinary : excepted (.named name) = false) : property.isWritable = true := by
  rcases Bool.or_eq_true_iff.mp (all_of_own plain all own) with writable | special
  · exact writable
  · rw [ordinary] at special
    contradiction

theorem accessor_of_any {engine : Engine} {property? : Option Property}
    (links : property?.any (fun property =>
      match property.slot with
      | .accessor (some getter) (some setter) =>
        engine.runs getter .readPrototype && engine.runs setter .writePrototype
      | _ => false) = true) :
    ∃ (getter setter : ObjectId) (property : Property), property? = some property ∧
      property.slot = .accessor (some getter) (some setter) ∧
      (engine.object getter).objectClass = .builtin .readPrototype ∧
      (engine.object setter).objectClass = .builtin .writePrototype := by
  obtain ⟨property, own, linked⟩ := (Option.any_eq_true _ _).mp links
  split at linked
  · rename_i getter setter slot
    obtain ⟨reads, writes⟩ := Bool.and_eq_true_iff.mp linked
    exact ⟨getter, setter, property, own, slot, objectClass_of_runs reads, objectClass_of_runs writes⟩
  · contradiction

theorem fixed_of_any {property? : Option Property}
    (fixed : property?.any (fun property =>
      match property.slot with
      | .value _ writable => !writable
      | _ => false) = true) :
    ∃ (property : Property) (value : Value), property? = some property ∧
      property.slot = .value value false := by
  obtain ⟨property, own, locked⟩ := (Option.any_eq_true _ _).mp fixed
  split at locked
  · rename_i value writable slot
    rw [Bool.not_eq_true'] at locked
    exact ⟨property, value, own, locked ▸ slot⟩
  · contradiction

theorem ownsObject_of_any {engine : Engine}
    (owns : (((engine.object Intrinsic.global).own? (.named "Object")).bind objectOf?).any (fun object =>
      object != Intrinsic.global &&
        (((engine.object object).own? (.named "create")).bind objectOf?).any
          (engine.runs · .createObject)) = true) : engine.OwnsObject := by
  obtain ⟨object, named, good⟩ := (Option.any_eq_true _ _).mp owns
  obtain ⟨apart, made⟩ := Bool.and_eq_true_iff.mp good
  obtain ⟨create, member, runs⟩ := (Option.any_eq_true _ _).mp made
  exact ⟨object, bne_iff_ne.mp apart, holds_of_objectOf? named, create, holds_of_objectOf? member,
    objectClass_of_runs runs⟩

theorem open_of_parent {engine : Engine} (grounded : engine.Grounded)
    (inside : Intrinsic.global < engine.objects.size)
    (parent : (engine.object Intrinsic.global).prototype = some Intrinsic.objectPrototype)
    (plain : (engine.object Intrinsic.global).objectClass = .plain)
    (free : ∀ name property, (engine.object Intrinsic.global).own? (.named name) = some property →
      name ∉ readOnlyNames → property.isWritable = true) :
    engine.Open [Intrinsic.global, Intrinsic.objectPrototype] where
  start := List.mem_cons_self
  plain := plain
  bound := by
    intro id member
    rcases List.mem_cons.mp member with rfl | last
    · exact inside
    · rw [List.mem_singleton.mp last]
      exact grounded.bound
  closed := by
    intro id above member found
    rcases List.mem_cons.mp member with rfl | last
    · rw [parent] at found
      cases found
      decide
    · rw [List.mem_singleton.mp last, grounded.top] at found
      contradiction
  free := by
    intro id member name property own allowed special
    rcases List.mem_cons.mp member with rfl | last
    · exact free name property own allowed
    · rw [List.mem_singleton.mp last] at own
      exact grounded.free name property own special

theorem standard_of_isStandard {engine : Engine} (checked : engine.isStandard = true) :
    engine.Standard := by
  simp only [isStandard, Bool.and_eq_true] at checked
  obtain ⟨⟨⟨⟨⟨⟨⟨⟨⟨⟨inside, rootPlain⟩, globalPlain⟩, top⟩, parent⟩, rootFree⟩, globalFree⟩, absent⟩,
    fixed⟩, accessor⟩, owns⟩ := checked
  have inside := of_decide_eq_true inside
  have globalPlain := objectClass_of_isPlain globalPlain
  have parent := beq_iff_eq.mp parent
  have freeRoot : ∀ name property,
      (engine.object Intrinsic.objectPrototype).own? (.named name) = some property →
      name ≠ "__proto__" → property.isWritable = true := by
    intro name property own special
    have other : PropertyKey.named name ≠ .named "__proto__" := mt PropertyKey.named_injective special
    exact free_of_all (· == .named "__proto__") (objectClass_of_isPlain rootPlain) rootFree name property
      own (beq_eq_false_iff_ne.mpr other)
  have grounded : engine.Grounded :=
    { bound := Nat.lt_trans (by decide) inside
      top := beq_iff_eq.mp top
      free := freeRoot
      accessor := accessor_of_any accessor }
  have free : ∀ name property, (engine.object Intrinsic.global).own? (.named name) = some property →
      name ∉ readOnlyNames → property.isWritable = true := by
    intro name property own allowed
    refine free_of_all (fun key => readOnlyNames.any (key == .named ·)) globalPlain globalFree name
      property own (List.any_eq_false.mpr ?_)
    intro other member same
    exact allowed (PropertyKey.named_injective (beq_iff_eq.mp same) ▸ member)
  exact
    { grounded
      parent
      absent := Option.isNone_iff_eq_none.mp absent
      opened := open_of_parent grounded inside parent globalPlain free
      fixed := fun name member => fixed_of_any (List.all_eq_true.mp fixed name member)
      owns := ownsObject_of_any owns }

theorem standard_new : Engine.new.Standard :=
  standard_of_isStandard (by decide +kernel)

/-- A bridge's engine can be made under every name that can be assigned. -/
theorem withShell_ok [Library] (name : String) (ordinary : name ∉ readOnlyNames) :
    ∃ engine, withShell name = .ok engine ∧ engine.Installed name := by
  obtain ⟨engine, installed, found⟩ := Installation.install_returns standard_new ordinary
  refine ⟨engine, ?_, found⟩
  rw [withShell, installed]
  rfl

theorem withShell_error [Library] {name : String} (fixed : name ∈ readOnlyNames) :
    withShell name = .error (.engineNotCreated installationFailed) := by
  obtain ⟨thrown, after, ended⟩ := Installation.install_throws standard_new fixed
  rw [withShell, ended]
  rfl

theorem withShell_bash :
    ∃ engine, withShell "bash" = .ok engine ∧ engine.hasOwnObject = true := by
  obtain ⟨engine, made, installed⟩ := withShell_ok "bash" (by decide)
  exact ⟨engine, made, (installed.object (by decide)).hasOwnObject⟩

end Engine

end ScriptedShell.Script
