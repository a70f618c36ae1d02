import Mathlib.Data.List.Forall2
import ScriptedShell.Session

/-!
Two runs side by side: started in related sessions, they end with the same result in related sessions.
-/

namespace ScriptedShell

/-- Each side has gone on from a past of its own, with events that are related one by one. -/
def Event.Since (relation : Event → Event → Prop) (past : List Event × List Event)
    (left right : Array Event) : Prop :=
  ∃ leftSince rightSince, left.toList = past.1 ++ leftSince ∧ right.toList = past.2 ++ rightSince ∧
    List.Forall₂ relation leftSince rightSince

namespace Event.Since

variable {relation : Event → Event → Prop} {past : List Event × List Event} {left right : Array Event}

theorem refl (left right : Array Event) : Since relation (left.toList, right.toList) left right :=
  ⟨[], [], by simp⟩

theorem push (since : Since relation past left right) {first second : Event}
    (related : relation first second) : Since relation past (left.push first) (right.push second) := by
  obtain ⟨leftSince, rightSince, leftEvents, rightEvents, all⟩ := since
  refine ⟨leftSince ++ [first], rightSince ++ [second], ?_, ?_, ?_⟩
  · rw [Array.toList_push, leftEvents, List.append_assoc]
  · rw [Array.toList_push, rightEvents, List.append_assoc]
  · exact List.rel_append all (.cons related .nil)

theorem append (since : Since relation past left right) (same : ∀ event, relation event event)
    (more : Array Event) : Since relation past (left ++ more) (right ++ more) := by
  obtain ⟨leftSince, rightSince, leftEvents, rightEvents, all⟩ := since
  refine ⟨leftSince ++ more.toList, rightSince ++ more.toList, ?_, ?_, ?_⟩
  · rw [Array.toList_append, leftEvents, List.append_assoc]
  · rw [Array.toList_append, rightEvents, List.append_assoc]
  · exact List.rel_append all (List.forall₂_same.mpr fun event _ => same event)

end Event.Since

namespace Run

variable {α β : Type} {relation : Session → Session → Prop}

def Relates (relation : Session → Session → Prop) (left right : Run α) : Prop :=
  ∀ first second, relation first second →
    right.result second = left.result first ∧ relation (left.after first) (right.after second)

theorem Relates.bind {left right : Run α} {leftNext rightNext : α → Run β}
    (head : Relates relation left right)
    (rest : ∀ value, Relates relation (leftNext value) (rightNext value)) :
    Relates relation (left >>= leftNext) (right >>= rightNext) := by
  intro first second related
  obtain ⟨same, middle⟩ := head first second related
  rw [result_bind, result_bind, after_bind, after_bind, same]
  exact rest (left.result first) _ _ middle

theorem Relates.look {left right : Session → Run α}
    (rest : ∀ first second, relation first second → Relates relation (left first) (right second)) :
    Relates relation (get >>= left) (get >>= right) :=
  fun first second related => rest first second related first second related

end Run

end ScriptedShell
