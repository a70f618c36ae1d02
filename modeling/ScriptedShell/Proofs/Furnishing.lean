import ScriptedShell.Proofs.EngineHeap

/-!
Objects that hold functions of the host, and how they are made: one function after the other, beside what
an engine has already.
-/

namespace ScriptedShell.Script

namespace Engine

def Holds (engine : Engine) (id : ObjectId) (name : String) (value : Value) : Prop :=
  ∃ property : Property, (engine.object id).own? (.named name) = some property ∧
    property.slot = .value value true

def Offers (engine : Engine) (id : ObjectId) (name : String) (builtin : Builtin) : Prop :=
  ∃ function : ObjectId, engine.Holds id name (.object function) ∧
    (engine.object function).objectClass = .builtin builtin

section

variable {engine after : Engine} {id except : ObjectId} {name : String} {value : Value}
  {builtin : Builtin}

theorem Holds.bound (holds : engine.Holds id name value) : id < engine.objects.size := by
  obtain ⟨property, own, _⟩ := holds
  exact bound_of_own own

theorem Holds.plainMember? (holds : engine.Holds id name value) :
    engine.plainMember? id name = some value := by
  obtain ⟨⟨slot, enumerable, configurable⟩, own, rfl⟩ := holds
  rw [Engine.plainMember?, findProperty_own own]

theorem Holds.keep (holds : engine.Holds id name value) (keeps : engine.Keeps except after)
    (different : id ≠ except) : after.Holds id name value := by
  rwa [Holds, keeps.same id holds.bound different]

theorem Keeps.objectClass (keeps : engine.Keeps except after) (different : id ≠ except)
    (known : (engine.object id).objectClass = .builtin builtin) :
    (after.object id).objectClass = .builtin builtin := by
  rw [keeps.same id (bound_of_builtin known) different, known]

theorem objectClass_outside (engine : Engine) :
    (engine.object engine.objects.size).objectClass = .plain := by
  rw [object_outside (Nat.le_refl _)]
  rfl

theorem ne_of_class {other : ObjectId} (plain : (engine.object id).objectClass = .plain)
    (known : (engine.object other).objectClass = .builtin builtin) : other ≠ id := by
  rintro rfl
  rw [plain] at known
  contradiction

theorem Offers.keep (offers : engine.Offers id name builtin) (keeps : engine.Keeps except after)
    (plain : (engine.object except).objectClass = .plain) (different : id ≠ except) :
    after.Offers id name builtin := by
  obtain ⟨function, holds, known⟩ := offers
  exact ⟨function, holds.keep keeps different, keeps.objectClass (ne_of_class plain known) known⟩

theorem holds_put (bound : id < engine.objects.size)
    (plain : (engine.object id).objectClass = .plain) {property : Property}
    (slot : property.slot = .value value true) :
    (engine.put id (.named name) property).Holds id name value := by
  refine ⟨property, ?_, slot⟩
  rw [own?_put bound plain, if_pos rfl]

theorem Holds.put_of_ne {other : String} (holds : engine.Holds id other value)
    (plain : (engine.object id).objectClass = .plain) (different : other ≠ name)
    (property : Property) : (engine.put id (.named name) property).Holds id other value := by
  rwa [Holds, own?_put holds.bound plain, if_neg (mt PropertyKey.named_injective different)]

theorem Offers.put_of_ne {other : String} (offers : engine.Offers id other builtin)
    (plain : (engine.object id).objectClass = .plain) (different : other ≠ name)
    (property : Property) : (engine.put id (.named name) property).Offers id other builtin := by
  obtain ⟨function, holds, known⟩ := offers
  have other : function ≠ id := ne_of_class plain known
  exact ⟨function, holds.put_of_ne plain different property,
    (Keeps.alter engine id _).objectClass other known⟩

end

/-- The object that most chains of prototypes end with. One of its properties gives objects another
prototype. -/
structure Grounded (engine : Engine) : Prop where
  bound : Intrinsic.objectPrototype < engine.objects.size
  top : (engine.object Intrinsic.objectPrototype).prototype = none
  free : ∀ name property, (engine.object Intrinsic.objectPrototype).own? (.named name) =
    some property → name ≠ "__proto__" → property.isWritable = true
  accessor : ∃ (getter setter : ObjectId) (property : Property),
    (engine.object Intrinsic.objectPrototype).own? (.named "__proto__") = some property ∧
      property.slot = .accessor (some getter) (some setter) ∧
      (engine.object getter).objectClass = .builtin .readPrototype ∧
      (engine.object setter).objectClass = .builtin .writePrototype

theorem Grounded.keep {engine after : Engine} {except : ObjectId} (grounded : engine.Grounded)
    (keeps : engine.Keeps except after) (plain : (engine.object except).objectClass = .plain)
    (other : except ≠ Intrinsic.objectPrototype) : after.Grounded := by
  have same := keeps.same _ grounded.bound other.symm
  obtain ⟨getter, setter, property, own, slot, reads, writes⟩ := grounded.accessor
  refine
    { bound := Nat.lt_of_lt_of_le grounded.bound keeps.size
      top := by rw [same, grounded.top]
      free := by
        rw [same]
        exact grounded.free
      accessor := ⟨getter, setter, property, ?_, slot,
        keeps.objectClass (ne_of_class plain reads) reads,
        keeps.objectClass (ne_of_class plain writes) writes⟩ }
  rw [same, own]

/-- An object that has been given functions, and nothing else. -/
structure Furnished (engine : Engine) (holder : ObjectId) (functions : List (String × Builtin)) :
    Prop where
  bound : holder < engine.objects.size
  plain : (engine.object holder).objectClass = .plain
  prototype : (engine.object holder).prototype = some Intrinsic.objectPrototype
  free : ∀ name property, (engine.object holder).own? (.named name) = some property →
    property.isWritable = true
  fresh : ∀ name ∉ functions.map Prod.fst, (engine.object holder).own? (.named name) = none
  offers : ∀ function ∈ functions, engine.Offers holder function.1 function.2

namespace Furnished

variable {engine after : Engine} {holder except : ObjectId} {functions : List (String × Builtin)}

theorem not_root (furnished : engine.Furnished holder functions) (grounded : engine.Grounded) :
    holder ≠ Intrinsic.objectPrototype := by
  rintro rfl
  have prototype := furnished.prototype
  rw [grounded.top] at prototype
  contradiction

theorem closed (furnished : engine.Furnished holder functions) (grounded : engine.Grounded)
    (id parent : ObjectId) (within : id = holder ∨ id = Intrinsic.objectPrototype)
    (above : (engine.object id).prototype = some parent) :
    parent = holder ∨ parent = Intrinsic.objectPrototype := by
  rcases within with rfl | rfl
  · rw [furnished.prototype] at above
    exact .inr (Option.some.inj above).symm
  · rw [grounded.top] at above
    contradiction

theorem keep (furnished : engine.Furnished holder functions) (keeps : engine.Keeps except after)
    (plain : (engine.object except).objectClass = .plain) (different : holder ≠ except) :
    after.Furnished holder functions := by
  have same := keeps.same holder furnished.bound different
  refine
    { bound := Nat.lt_of_lt_of_le furnished.bound keeps.size
      plain := ?_
      prototype := ?_
      free := ?_
      fresh := ?_
      offers := fun function member => (furnished.offers function member).keep keeps plain different }
  all_goals rw [same]
  · exact furnished.plain
  · exact furnished.prototype
  · exact furnished.free
  · exact furnished.fresh

end Furnished

end Engine

namespace Installation

open Engine

variable {engine : Engine} {holder : ObjectId} {functions : List (String × Builtin)}

theorem free_furnished (grounded : engine.Grounded) (furnished : engine.Furnished holder functions)
    {name : String} (ordinary : name ≠ "__proto__") (found : ObjectId) (property : Property)
    (look : engine.findProperty holder (.named name) = some (found, property)) :
    property.isWritable = true := by
  obtain ⟨rfl | rfl, own⟩ :=
    findProperty_within (furnished.closed grounded) (Or.inl rfl) look
  · exact furnished.free name property own
  · exact grounded.free name property own ordinary

theorem furnish_returns [Library] (grounded : engine.Grounded) (furnished : engine.Furnished holder functions)
    {name : String} (fresh : name ∉ functions.map Prod.fst) (ordinary : name ≠ "__proto__")
    (builtin : Builtin) :
    ∃ after : Engine,
      (do
        let function ← makeHolder.makeHostFunction builtin
        Member.assign callFromHost (.object holder) (.named name) function).Returns engine () after ∧
      engine.Keeps holder after ∧ after.Furnished holder (functions ++ [(name, builtin)]) := by
  let made := (engine.allocate
    { objectClass := .builtin builtin
      prototype := some Intrinsic.functionPrototype
      properties := [(.named "length", .settled (.ofNat builtin.required))] }).2
  have grows : engine.Keeps holder made := .allocate holder engine _
  have same : made.object holder = engine.object holder := object_allocate_of_lt furnished.bound _
  have known : (made.object engine.objects.size).objectClass = .builtin builtin := by
    rw [object_allocate_self]
  have still : made.Furnished holder functions := by
    exact furnished.keep (.allocate engine.objects.size engine _) (objectClass_outside engine)
      (Nat.ne_of_lt furnished.bound)
  have ground := grounded.keep grows furnished.plain (furnished.not_root grounded)
  obtain ⟨property, slot, assigned⟩ := Member.assign_returns callFromHost still.plain
    (free_furnished ground still ordinary) (.object engine.objects.size)
  let after := made.put holder (.named name) property
  have keeps : made.Keeps holder after := .alter made holder _
  have own := fun key => own?_put still.bound still.plain (.named name) key property
  have object : after.object holder = (made.object holder).put (.named name) property :=
    object_put still.bound _ _
  refine ⟨after, .bind (.allocate engine _) assigned, grows.trans keeps,
    { bound := Nat.lt_of_lt_of_le still.bound keeps.size
      plain := object ▸ still.plain
      prototype := object ▸ still.prototype
      free := ?free
      fresh := ?fresh
      offers := ?offers }⟩
  case free =>
    intro other found present
    rw [own] at present
    split at present
    · cases present
      rw [Property.isWritable, slot]
    · exact still.free other found present
  case fresh =>
    intro other absent
    rw [List.map_append, List.mem_append, not_or] at absent
    have different : other ≠ name := fun same => absent.2 (List.mem_singleton.mpr same)
    rw [own, if_neg (mt PropertyKey.named_injective different)]
    exact still.fresh other absent.1
  case offers =>
    intro function member
    rcases List.mem_append.mp member with earlier | last
    · have different : function.1 ≠ name :=
        fun same => fresh (same ▸ List.mem_map_of_mem earlier)
      exact (still.offers function earlier).put_of_ne still.plain different property
    · rw [List.mem_singleton.mp last]
      exact ⟨engine.objects.size, holds_put still.bound still.plain slot,
        keeps.objectClass (Nat.ne_of_gt furnished.bound) known⟩

theorem furnishAll_returns [Library] (grounded : engine.Grounded) (functions more : List (String × Builtin))
    (furnished : engine.Furnished holder functions)
    (distinct : ((functions ++ more).map Prod.fst).Nodup)
    (ordinary : ∀ function ∈ more, function.1 ≠ "__proto__") :
    ∃ after : Engine,
      (Action.forItems
        (fun (name, builtin) => do
          let function ← makeHolder.makeHostFunction builtin
          Member.assign callFromHost (.object holder) (.named name) function) more).Returns
        engine () after ∧
      engine.Keeps holder after ∧ after.Furnished holder (functions ++ more) := by
  -- What the object has already grows along the list, so it must stay apart from what is to come.
  induction more generalizing engine functions with
  | nil => exact ⟨engine, .pure (), .refl holder engine, by rwa [List.append_nil]⟩
  | cons first rest ih =>
      obtain ⟨name, builtin⟩ := first
      obtain ⟨special, others⟩ := List.forall_mem_cons.mp ordinary
      have fresh : name ∉ functions.map Prod.fst := by
        rw [List.map_append, List.nodup_append] at distinct
        exact fun early => distinct.2.2 name early name (by simp) rfl
      obtain ⟨next, given, keeps, now⟩ := furnish_returns grounded furnished fresh special builtin
      have ground := grounded.keep keeps furnished.plain (furnished.not_root grounded)
      rw [List.append_cons] at distinct ⊢
      obtain ⟨after, rested, later, last⟩ := ih ground _ now distinct others
      exact ⟨after, .bind given rested, keeps.trans later, last⟩

theorem makeHolder_returns [Library] (functions : List (String × Builtin)) (grounded : engine.Grounded)
    (distinct : (functions.map Prod.fst).Nodup)
    (ordinary : ∀ function ∈ functions, function.1 ≠ "__proto__") :
    ∃ after : Engine,
      (makeHolder functions).Returns engine (.object engine.objects.size) after ∧
      (∀ except, engine.Keeps except after) ∧ after.Furnished engine.objects.size functions := by
  let holder : ScriptObject :=
    { objectClass := .plain, prototype := some Intrinsic.objectPrototype }
  let made := (engine.allocate holder).2
  have object : made.object engine.objects.size = holder := object_allocate_self engine holder
  have empty : made.Furnished engine.objects.size [] :=
    { bound := by simp [made, allocate]
      plain := by rw [object]
      prototype := by rw [object]
      free := by
        intro name property owned
        rw [object] at owned
        cases owned
      fresh := by
        rw [object]
        exact fun _ _ => rfl
      offers := fun _ member => absurd member List.not_mem_nil }
  have ground : made.Grounded :=
    grounded.keep (.allocate engine.objects.size engine _) (objectClass_outside engine)
      (Nat.ne_of_gt grounded.bound)
  obtain ⟨after, furnished, keeps, last⟩ :=
    furnishAll_returns ground [] functions empty distinct ordinary
  refine ⟨after, .bind (.allocate engine _) (.bind furnished (.pure _)), fun except => ?_, last⟩
  have grows : engine.Keeps except made := .allocate except engine _
  refine ⟨Nat.le_trans grows.size keeps.size, fun id bound different => ?_⟩
  rw [keeps.same id (Nat.lt_of_lt_of_le bound grows.size) (Nat.ne_of_lt bound),
    grows.same id bound different]

end Installation

end ScriptedShell.Script
