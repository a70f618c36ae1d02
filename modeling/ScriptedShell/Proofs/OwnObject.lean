import ScriptedShell.Script.Chunk

/-!
The global `Object` of an engine. Whoever makes an object without a prototype asks it for the means, and a
script may have put something else in its place.
-/

namespace ScriptedShell.Script.Engine

def plainMember? (engine : Engine) (id : ObjectId) (name : String) : Option Value :=
  match engine.findProperty id (.named name) with
  | some (_, ⟨.value value _, _, _⟩) => some value
  | _ => none

def makesObjects (engine : Engine) (id : ObjectId) : Bool :=
  match (engine.object id).objectClass with
  | .builtin function => function == .createObject
  | _ => false

/-- The global `Object` is the one that a new engine has, as far as anything asks it: its `create` is
the function that makes objects. -/
def hasOwnObject (engine : Engine) : Bool :=
  match engine.plainMember? Intrinsic.global "Object" with
  | some (.object holder) =>
    match engine.plainMember? holder "create" with
    | some (.object create) => engine.makesObjects create
    | _ => false
  | _ => false

theorem objectClass_of_makesObjects {engine : Engine} {id : ObjectId}
    (makes : engine.makesObjects id = true) :
    (engine.object id).objectClass = .builtin .createObject := by
  unfold makesObjects at makes
  split at makes
  · rename_i known
    rw [known, beq_iff_eq.mp makes]
  · contradiction

theorem create_of_hasOwnObject {engine : Engine} (own : engine.hasOwnObject = true) :
    ∃ holder create : ObjectId,
      engine.plainMember? Intrinsic.global "Object" = some (.object holder) ∧
      engine.plainMember? holder "create" = some (.object create) ∧
      (engine.object create).objectClass = .builtin .createObject := by
  unfold hasOwnObject at own
  split at own
  · rename_i holder object
    split at own
    · rename_i create member
      exact ⟨holder, create, object, member, objectClass_of_makesObjects own⟩
    · contradiction
  · contradiction

end ScriptedShell.Script.Engine
