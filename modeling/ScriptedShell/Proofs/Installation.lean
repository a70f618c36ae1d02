import ScriptedShell.Proofs.Furnishing

/-!
What a bridge puts into a new engine: an object with the shell's functions under a name of its own, then
`console` and `print`.
-/

namespace ScriptedShell.Script

def readOnlyNames : List String :=
  ["undefined", "NaN", "Infinity"]

/-- The global object takes any other name; `path` are the objects that its prototypes lead to. -/
structure Engine.Open (engine : Engine) (path : List ObjectId) : Prop where
  start : Intrinsic.global ∈ path
  bound : ∀ id ∈ path, id < engine.objects.size
  closed : ∀ id parent, id ∈ path → (engine.object id).prototype = some parent → parent ∈ path
  plain : (engine.object Intrinsic.global).objectClass = .plain
  free : ∀ id ∈ path, ∀ name property, (engine.object id).own? (.named name) = some property →
    name ∉ readOnlyNames → name ≠ "__proto__" → property.isWritable = true

/-- What was there is as it was, but for global names. -/
structure Engine.Renames (names : List String) (before after : Engine) : Prop
    extends Engine.Keeps Intrinsic.global before after where
  own : ∀ name ∉ names, (after.object Intrinsic.global).own? (.named name) =
    (before.object Intrinsic.global).own? (.named name)
  prototype : (after.object Intrinsic.global).prototype =
    (before.object Intrinsic.global).prototype

namespace Engine

variable {engine after : Engine} {path : List ObjectId} {name : String} {value : Value}

theorem Open.inside (opened : engine.Open path) : Intrinsic.global < engine.objects.size :=
  opened.bound _ opened.start

theorem Open.keep (opened : engine.Open path) (keeps : ∀ except, engine.Keeps except after) :
    after.Open path := by
  have same : ∀ id ∈ path, after.object id = engine.object id := fun id member =>
    (keeps (id + 1)).same id (opened.bound id member) (Nat.ne_of_lt (Nat.lt_succ_self id))
  refine
    { start := opened.start
      bound := fun id member => Nat.lt_of_lt_of_le (opened.bound id member) (keeps 0).size
      closed := ?_
      plain := ?_
      free := ?_ }
  · intro id parent member
    rw [same id member]
    exact opened.closed id parent member
  · rw [same _ opened.start]
    exact opened.plain
  · intro id member
    rw [same id member]
    exact opened.free id member

theorem Renames.of_keeps (opened : engine.Open path) (keeps : ∀ except, engine.Keeps except after) :
    Renames [] engine after := by
  have same := (keeps 0).same _ opened.inside (by decide)
  refine { keeps Intrinsic.global with own := fun _ _ => ?_, prototype := ?_ }
  · rw [same]
  · rw [same]

theorem Renames.trans {names more : List String} {first second third : Engine}
    (earlier : Renames names first second) (later : Renames more second third) :
    Renames (names ++ more) first third := by
  refine { earlier.toKeeps.trans later.toKeeps with own := ?_, prototype := ?_ }
  · intro name absent
    rw [List.mem_append, not_or] at absent
    rw [later.own name absent.2, earlier.own name absent.1]
  · rw [later.prototype, earlier.prototype]

theorem Renames.holds {names : List String} (renames : Renames names engine after)
    (holds : engine.Holds Intrinsic.global name value) (absent : name ∉ names) :
    after.Holds Intrinsic.global name value := by
  rwa [Holds, renames.own name absent]

theorem Open.assign [Library] (opened : engine.Open path) (name : String) (ordinary : name ∉ readOnlyNames)
    (special : name ≠ "__proto__") (value : Value) :
    ∃ after : Engine,
      (Member.assign callFromHost (.object Intrinsic.global) (.named name) value).Returns
        engine () after ∧
      after.Open path ∧ Renames [name] engine after ∧
      after.Holds Intrinsic.global name value := by
  have free : ∀ holder property,
      engine.findProperty Intrinsic.global (.named name) = some (holder, property) →
      property.isWritable = true := by
    intro holder property found
    obtain ⟨member, own⟩ := findProperty_within opened.closed opened.start found
    exact opened.free holder member name property own ordinary special
  obtain ⟨property, slot, assigned⟩ := Member.assign_returns callFromHost opened.plain free value
  let after := engine.put Intrinsic.global (.named name) property
  have keeps : engine.Keeps Intrinsic.global after := .alter engine _ _
  have object : after.object Intrinsic.global =
      (engine.object Intrinsic.global).put (.named name) property := object_put opened.inside _ _
  have own := fun key => own?_put opened.inside opened.plain (.named name) key property
  have elsewhere : ∀ id, id ≠ Intrinsic.global → after.object id = engine.object id :=
    fun id different => object_alter_of_ne different _
  have prototype : ∀ id, (after.object id).prototype = (engine.object id).prototype := by
    intro id
    by_cases same : id = Intrinsic.global
    · rw [same, object]
      rfl
    · rw [elsewhere id same]
  refine ⟨after, assigned, ?opened, ?renames, holds_put opened.inside opened.plain slot⟩
  case renames =>
    refine { keeps with own := fun other absent => ?_, prototype := prototype _ }
    have different : other ≠ name := fun same => absent (List.mem_singleton.mpr same)
    rw [own, if_neg (mt PropertyKey.named_injective different)]
  case opened =>
    refine
      { start := opened.start
        bound := fun id member => Nat.lt_of_lt_of_le (opened.bound id member) keeps.size
        closed := ?_
        plain := object ▸ opened.plain
        free := ?_ }
    · intro id parent member
      rw [prototype]
      exact opened.closed id parent member
    · intro id member other found present allowed normal
      by_cases same : id = Intrinsic.global
      · rw [same, own] at present
        split at present
        · cases present
          rw [Property.isWritable, slot]
        · exact opened.free _ opened.start other found present allowed normal
      · rw [elsewhere id same] at present
        exact opened.free id member other found present allowed normal

end Engine

namespace Engine

variable {engine : Engine} {holder : ObjectId} {path : List ObjectId}
  {functions : List (String × Builtin)}

theorem Grounded.writePrototype_returns [Library] (grounded : engine.Grounded)
    (furnished : engine.Furnished holder functions) (apart : holder ≠ Intrinsic.global)
    {setter : ObjectId} (known : (engine.object setter).objectClass = .builtin .writePrototype) :
    (callFromHost (.object setter) (.object Intrinsic.global) [.object holder]).Returns engine
      .undefined (engine.alter Intrinsic.global fun object => { object with prototype := some holder }) := by
  let framed : Engine := { engine with frames := .function setter :: engine.frames }
  let written := framed.alter Intrinsic.global fun object => { object with prototype := some holder }
  have below : framed.inherits holder Intrinsic.global = false := by
    have closed : ∀ id parent, id = holder ∨ id = Intrinsic.objectPrototype →
        (framed.object id).prototype = some parent →
        parent = holder ∨ parent = Intrinsic.objectPrototype := furnished.closed grounded
    rw [Bool.eq_false_iff]
    intro inherits
    rcases inherits_within closed (.inl rfl) inherits with same | same
    · exact apart same.symm
    · contradiction
  have changed : (Member.setPrototype Intrinsic.global (some holder)).Returns framed () written := by
    refine .bind (.inspect _) ?_
    rw [Option.any_some, below]
    exact .change _
  have returned : (BuiltinCall.writePrototype (.object Intrinsic.global) (.object holder)).Returns
      framed .undefined written := .bind changed (.pure _)
  exact invoke_builtin known rfl (nestingLimit - 1) _ [.object holder] returned

theorem Open.withPrototype (opened : engine.Open path)
    (parent : (engine.object Intrinsic.global).prototype = some Intrinsic.objectPrototype)
    (furnished : engine.Furnished holder functions) {after : Engine}
    (keeps : engine.Keeps Intrinsic.global after)
    (object : after.object Intrinsic.global =
      { engine.object Intrinsic.global with prototype := some holder })
    (elsewhere : ∀ id, id ≠ Intrinsic.global → after.object id = engine.object id) :
    after.Open (holder :: path) where
  start := List.mem_cons_of_mem _ opened.start
  plain := object ▸ opened.plain
  bound := by
    intro id member
    rcases List.mem_cons.mp member with rfl | earlier
    · exact Nat.lt_of_lt_of_le furnished.bound keeps.size
    · exact Nat.lt_of_lt_of_le (opened.bound id earlier) keeps.size
  closed := by
    intro id above member found
    by_cases same : id = Intrinsic.global
    · rw [same, object] at found
      cases found
      exact List.mem_cons_self
    · rw [elsewhere id same] at found
      rcases List.mem_cons.mp member with rfl | earlier
      · rw [furnished.prototype] at found
        cases found
        exact List.mem_cons_of_mem _ (opened.closed _ _ opened.start parent)
      · exact List.mem_cons_of_mem _ (opened.closed id above earlier found)
  free := by
    intro id member name property present allowed special
    have still : (engine.object id).own? (.named name) = some property := by
      by_cases same : id = Intrinsic.global
      · rw [same, object] at present
        rw [same]
        exact present
      · rwa [elsewhere id same] at present
    rcases List.mem_cons.mp member with rfl | earlier
    · exact furnished.free name property still
    · exact opened.free id earlier name property still allowed special

/-- The name of the prototype is no name of the global object's own: an object that is assigned to it
comes next on the path. -/
theorem Open.assignPrototype [Library] (opened : engine.Open path) (grounded : engine.Grounded)
    (parent : (engine.object Intrinsic.global).prototype = some Intrinsic.objectPrototype)
    (absent : (engine.object Intrinsic.global).own? (.named "__proto__") = none)
    (furnished : engine.Furnished holder functions) (apart : holder ≠ Intrinsic.global) :
    ∃ after : Engine,
      (Member.assign callFromHost (.object Intrinsic.global) (.named "__proto__")
        (.object holder)).Returns engine () after ∧
      after.Open (holder :: path) ∧ engine.Keeps Intrinsic.global after ∧
      (∀ name, (after.object Intrinsic.global).own? (.named name) =
        (engine.object Intrinsic.global).own? (.named name)) ∧
      (after.object Intrinsic.global).prototype = some holder := by
  obtain ⟨getter, setter, property, above, slot, _, known⟩ := grounded.accessor
  have found : engine.findProperty Intrinsic.global (.named "__proto__") =
      some (Intrinsic.objectPrototype, property) := by
    have many : 9 < engine.objects.size := opened.inside
    obtain ⟨steps, size⟩ := Nat.exists_eq_add_of_le' (Nat.le_of_lt many)
    rw [findProperty, size, search_up absent parent, search_own above]
  let after := engine.alter Intrinsic.global fun object => { object with prototype := some holder }
  have keeps : engine.Keeps Intrinsic.global after := .alter engine _ _
  have object : after.object Intrinsic.global =
      { engine.object Intrinsic.global with prototype := some holder } := object_alter opened.inside _
  have own : ∀ name, (after.object Intrinsic.global).own? (.named name) =
      (engine.object Intrinsic.global).own? (.named name) := by
    intro name
    rw [object]
    rfl
  have called := grounded.writePrototype_returns furnished apart known
  exact ⟨after, Member.assign_accessor callFromHost found slot called,
    opened.withPrototype parent furnished keeps object fun _ different => object_alter_of_ne different _,
    keeps, own, congrArg ScriptObject.prototype object⟩

def OwnsObject (engine : Engine) : Prop :=
  ∃ object : ObjectId, object ≠ Intrinsic.global ∧
    engine.Holds Intrinsic.global "Object" (.object object) ∧
    engine.Offers object "create" .createObject

theorem OwnsObject.hasOwnObject (owns : engine.OwnsObject) : engine.hasOwnObject = true := by
  obtain ⟨object, _, named, create, holds, known⟩ := owns
  rw [Engine.hasOwnObject, named.plainMember?]
  simp only [holds.plainMember?, makesObjects, known]
  rfl

theorem OwnsObject.keep {after : Engine} (owns : engine.OwnsObject)
    (keeps : engine.Keeps Intrinsic.global after)
    (plain : (engine.object Intrinsic.global).objectClass = .plain)
    (own : (after.object Intrinsic.global).own? (.named "Object") =
      (engine.object Intrinsic.global).own? (.named "Object")) : after.OwnsObject := by
  obtain ⟨object, apart, named, create⟩ := owns
  refine ⟨object, apart, ?_, create.keep keeps plain apart⟩
  rwa [Holds, own]

structure Standard (engine : Engine) : Prop where
  grounded : engine.Grounded
  parent : (engine.object Intrinsic.global).prototype = some Intrinsic.objectPrototype
  absent : (engine.object Intrinsic.global).own? (.named "__proto__") = none
  opened : engine.Open [Intrinsic.global, Intrinsic.objectPrototype]
  fixed : ∀ name ∈ readOnlyNames, ∃ (property : Property) (value : Value),
    (engine.object Intrinsic.global).own? (.named name) = some property ∧
      property.slot = .value value false
  owns : engine.OwnsObject

end Engine

def consoleNames : List String :=
  ["console", "print"]

namespace Engine

def Leads (engine : Engine) (name : String) (holder : ObjectId) : Prop :=
  engine.Holds Intrinsic.global name (.object holder) ∨
    name = "__proto__" ∧ (engine.object Intrinsic.global).own? (.named "__proto__") = none ∧
      (engine.object Intrinsic.global).prototype = some holder

section

variable {engine after : Engine} {name : String} {holder : ObjectId} {path : List ObjectId}
  {functions : List (String × Builtin)}

theorem Leads.keep {names : List String} (leads : engine.Leads name holder)
    (renames : Renames names engine after) (absent : name ∉ names) : after.Leads name holder := by
  rcases leads with holds | ⟨rfl, none, prototype⟩
  · exact .inl (renames.holds holds absent)
  · refine .inr ⟨rfl, ?_, ?_⟩
    · rw [renames.own _ absent, none]
    · rw [renames.prototype, prototype]

theorem Leads.read [Library] (leads : engine.Leads name holder) (opened : engine.Open path)
    (grounded : engine.Grounded) (furnished : engine.Furnished holder functions)
    (ordinary : "__proto__" ∉ functions.map Prod.fst) :
    (Member.readNamed callFromHost (.object Intrinsic.global) name).Returns engine (.object holder)
      engine := by
  rcases leads with holds | ⟨rfl, absent, prototype⟩
  · exact Member.readNamed_returns callFromHost holds.plainMember?
  · obtain ⟨getter, setter, property, above, slot, known, _⟩ := grounded.accessor
    have found : engine.findProperty Intrinsic.global (.named "__proto__") =
        some (Intrinsic.objectPrototype, property) := by
      have many : 9 < engine.objects.size := opened.inside
      obtain ⟨steps, size⟩ := Nat.exists_eq_add_of_le' (Nat.le_of_lt many)
      rw [findProperty, size, search_up absent prototype,
        search_up (furnished.fresh _ ordinary) furnished.prototype, search_own above]
    have called : (callFromHost (.object getter) (.object Intrinsic.global) []).Returns engine
        (.object holder) engine := by
      have reading : (BuiltinCall.readPrototype (.object Intrinsic.global)).Returns
          { engine with frames := .function getter :: engine.frames } (.object holder)
          { engine with frames := .function getter :: engine.frames } := by
        refine .bind (.inspect _) ?_
        have same : (Engine.object { engine with frames := .function getter :: engine.frames }
            Intrinsic.global).prototype = some holder := prototype
        rw [same]
        exact .pure _
      exact invoke_builtin known rfl (nestingLimit - 1) (.object Intrinsic.global) [] reading
    refine .bind (.inspect _) ?_
    rw [found]
    simp only [Member.readSlot, slot]
    exact called

end

end Engine

namespace Installation

open Engine

variable {engine : Engine} {path : List ObjectId}

theorem console_returns [Library] (grounded : engine.Grounded) (opened : engine.Open path) :
    ∃ after : Engine,
      (do
        let console ← makeHolder consoleFunctions
        Member.assign callFromHost (.object Intrinsic.global) (.named "console") console
        let print ← makeHolder.makeHostFunction .print
        Member.assign callFromHost (.object Intrinsic.global) (.named "print") print).Returns
        engine () after ∧
      Renames consoleNames engine after ∧ after.Grounded ∧ after.Open path ∧
      (∃ console : ObjectId, after.Furnished console consoleFunctions ∧
        after.Holds Intrinsic.global "console" (.object console)) ∧
      after.Offers Intrinsic.global "print" .print := by
  obtain ⟨built, making, beside, furnished⟩ :=
    makeHolder_returns consoleFunctions grounded (by decide) (by decide)
  have apart : engine.objects.size ≠ Intrinsic.global := Nat.ne_of_gt opened.inside
  have opening := opened.keep beside
  obtain ⟨named, naming, opens, renames, console⟩ :=
    opening.assign "console" (by decide) (by decide) (.object engine.objects.size)
  let printer : ScriptObject :=
    { objectClass := .builtin .print
      prototype := some Intrinsic.functionPrototype
      properties := [(.named "length", .settled (.ofNat Builtin.print.required))] }
  let equipped := (named.allocate printer).2
  have grows : ∀ except, named.Keeps except equipped := fun except => .allocate except named _
  have known : (equipped.object named.objects.size).objectClass = .builtin .print := by
    rw [object_allocate_self]
  obtain ⟨after, last, opensLast, renamesLast, print⟩ :=
    (opens.keep grows).assign "print" (by decide) (by decide) (.object named.objects.size)
  have whole : Renames consoleNames engine after :=
    (((Renames.of_keeps opened beside).trans renames).trans (.of_keeps opens grows)).trans renamesLast
  have late : Renames ["print"] named after := (Renames.of_keeps opens grows).trans renamesLast
  refine ⟨after, .bind making (.bind naming (.bind (.allocate named printer) last)), whole,
    grounded.keep whole.toKeeps opened.plain (by decide), opensLast,
    ⟨engine.objects.size, ?furnished, late.holds console (by decide)⟩,
    named.objects.size, print, ?known⟩
  case furnished =>
    have still := furnished.keep renames.toKeeps opening.plain apart
    exact still.keep late.toKeeps opens.plain apart
  case known =>
    exact renamesLast.toKeeps.objectClass (ne_of_class (opens.keep grows).plain known) known

end Installation

/-- What a script finds in an engine in which a bridge's functions are installed. -/
structure Engine.Installed [Library] (name : String) (engine : Engine) : Prop where
  shell : ∃ holder : ObjectId, engine.Furnished holder Installation.shellFunctions ∧
    (name ∉ consoleNames →
      (Member.readNamed callFromHost (.object Intrinsic.global) name).Returns engine
        (.object holder) engine)
  console : ∃ console : ObjectId, engine.Furnished console Installation.consoleFunctions ∧
    engine.Holds Intrinsic.global "console" (.object console)
  print : engine.Offers Intrinsic.global "print" .print
  object : name ≠ "Object" → engine.OwnsObject

namespace Installation

open Engine

variable [Library] {engine : Engine} {name : String}

theorem name_returns {holder : ObjectId} {functions : List (String × Builtin)}
    {path : List ObjectId} (grounded : engine.Grounded) (opened : engine.Open path)
    (parent : (engine.object Intrinsic.global).prototype = some Intrinsic.objectPrototype)
    (absent : (engine.object Intrinsic.global).own? (.named "__proto__") = none)
    (furnished : engine.Furnished holder functions) (apart : holder ≠ Intrinsic.global)
    (ordinary : name ∉ readOnlyNames) :
    ∃ (after : Engine) (path : List ObjectId),
      (Member.assign callFromHost (.object Intrinsic.global) (.named name) (.object holder)).Returns
        engine () after ∧
      after.Open path ∧ engine.Keeps Intrinsic.global after ∧
      (∀ other, other ≠ name → (after.object Intrinsic.global).own? (.named other) =
        (engine.object Intrinsic.global).own? (.named other)) ∧
      after.Leads name holder := by
  by_cases special : name = "__proto__"
  · subst special
    obtain ⟨after, assigned, opens, keeps, own, prototype⟩ :=
      opened.assignPrototype grounded parent absent furnished apart
    exact ⟨after, _, assigned, opens, keeps, fun other _ => own other,
      .inr ⟨rfl, (own _).trans absent, prototype⟩⟩
  · obtain ⟨after, assigned, opens, renames, holds⟩ :=
      opened.assign name ordinary special (.object holder)
    exact ⟨after, _, assigned, opens, renames.toKeeps,
      fun other different => renames.own other (mt List.mem_singleton.mp different), .inl holds⟩

theorem install_returns (standard : engine.Standard) (ordinary : name ∉ readOnlyNames) :
    ∃ after : Engine, (install name).Returns engine () after ∧ after.Installed name := by
  have inside := standard.opened.inside
  obtain ⟨built, making, beside, furnished⟩ :=
    makeHolder_returns shellFunctions standard.grounded (by decide) (by decide)
  have apart : engine.objects.size ≠ Intrinsic.global := Nat.ne_of_gt inside
  have opened := standard.opened.keep beside
  have grows := Renames.of_keeps standard.opened beside
  have grounded := standard.grounded.keep grows.toKeeps standard.opened.plain (by decide)
  obtain ⟨named, path, naming, opens, keeps, own, leads⟩ :=
    name_returns grounded opened (grows.prototype.trans standard.parent)
      ((grows.own _ List.not_mem_nil).trans standard.absent) furnished apart ordinary
  have ground := grounded.keep keeps opened.plain (by decide)
  have still := furnished.keep keeps opened.plain apart
  obtain ⟨after, rested, renames, last, opensLast, console, print⟩ := console_returns ground opens
  have shell := still.keep renames.toKeeps opens.plain apart
  refine ⟨after, .bind making (.bind naming rested),
    { shell := ⟨engine.objects.size, shell, fun unclaimed => ?_⟩
      console := console
      print := print
      object := fun different => ?_ }⟩
  · exact (leads.keep renames unclaimed).read opensLast last shell (by decide)
  · have early := standard.owns.keep grows.toKeeps standard.opened.plain
      (grows.own _ List.not_mem_nil)
    exact (early.keep keeps opened.plain (own _ different.symm)).keep renames.toKeeps opens.plain
      (renames.own _ (by decide))

theorem install_throws (standard : engine.Standard) (fixed : name ∈ readOnlyNames) :
    (install name).Throws engine := by
  obtain ⟨built, making, beside, furnished⟩ :=
    makeHolder_returns shellFunctions standard.grounded (by decide) (by decide)
  have grows := Renames.of_keeps standard.opened beside
  obtain ⟨property, value, own, slot⟩ := standard.fixed name fixed
  rw [← grows.own name List.not_mem_nil] at own
  refine .after making (.bind _ (.after (.inspect _) ?_))
  rw [findProperty_own own]
  simp only [slot]
  exact ⟨_, _, rfl⟩

end Installation

end ScriptedShell.Script
