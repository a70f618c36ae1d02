import ScriptedShell.Script.Action

/-!
Actions that ask the host for nothing: what they end with, and checks, which change nothing but may
throw an error that they make.
-/

namespace ScriptedShell.Script.Action

def Returns {α : Type} (action : Action α) (engine : Engine) (value : α) (after : Engine) : Prop :=
  action engine = .done (.value value, after)

variable {α β : Type} {engine middle last : Engine}

namespace Returns

theorem pure (value : α) : Returns (Pure.pure value) engine value engine :=
  rfl

theorem inspect (view : Engine → α) :
    Returns (Action.inspect view) engine (view engine) engine :=
  rfl

theorem change (f : Engine → Engine) : Returns (Action.change f) engine () (f engine) :=
  rfl

theorem bind_eq {action : Action α} {value : α} (first : action.Returns engine value middle)
    (next : α → Action β) : (action >>= next) engine = next value middle := by
  change (action engine).bind _ = _
  rw [first]
  rfl

theorem bind {action : Action α} {next : α → Action β} {value : α} {result : β}
    (first : action.Returns engine value middle) (rest : (next value).Returns middle result last) :
    (action >>= next).Returns engine result last :=
  (first.bind_eq next).trans rest

theorem outcome {action : Action α} {ended : Outcome α} (ran : action engine = .done (ended, last)) :
    (Action.outcome action).Returns engine ended last := by
  change (action engine).bind _ = _
  rw [ran]
  rfl

end Returns

theorem bind_of_thrown {action : Action α} {thrown : Value}
    (ended : action engine = .done (.thrown thrown, last)) (next : α → Action β) :
    (action >>= next) engine = .done (.thrown thrown, last) := by
  change (action engine).bind _ = _
  rw [ended]
  rfl

/-- An action throws an error that it has just made. Nothing else changes, and the host is not
asked. -/
def Complains (action : Action α) (engine : Engine) (error : ScriptObject) : Prop :=
  action engine = .done (.thrown (.object engine.objects.size), (engine.allocate error).2)

namespace Complains

variable {error : ScriptObject}

theorem bind {action : Action α} (complains : action.Complains engine error)
    (next : α → Action β) : (action >>= next).Complains engine error :=
  bind_of_thrown complains next

theorem of_returns {action : Action α} {next : α → Action β} {value : α}
    (first : action.Returns engine value engine) (rest : (next value).Complains engine error) :
    (action >>= next).Complains engine error :=
  (first.bind_eq next).trans rest

theorem inFrame {action : Action α} {frame : Frame}
    (complains : action.Complains (engine.within frame) error) :
    (Action.inFrame frame action).Complains engine error := by
  have entered : (Action.change fun engine => engine.within frame).Returns engine ()
      (engine.within frame) := .change _
  exact (entered.bind_eq _).trans ((Returns.outcome complains).bind_eq _)

end Complains

/-- An action changes nothing, but may complain. -/
def Checks (action : Action Unit) : Prop :=
  ∀ engine, action.Returns engine () engine ∨ ∃ error, action.Complains engine error

namespace Checks

theorem pass : Checks (Pure.pure ()) :=
  fun _ => .inl rfl

theorem fail (kind : ErrorKind) (message : Units) : Checks (Action.fail kind message) :=
  fun _ => .inr ⟨_, rfl⟩

theorem inspect {view : Engine → α} {next : α → Action Unit} (rest : ∀ seen, Checks (next seen)) :
    Checks (Action.inspect view >>= next) :=
  fun engine => rest (view engine) engine

theorem bind {first : Action Unit} {next : Unit → Action Unit} (begins : Checks first)
    (rest : Checks (next ())) : Checks (first >>= next) := by
  intro engine
  rcases begins engine with returned | ⟨error, complains⟩
  · rcases rest engine with returnedToo | ⟨error, complains⟩
    · exact .inl (returned.bind returnedToo)
    · exact .inr ⟨error, .of_returns returned complains⟩
  · exact .inr ⟨error, complains.bind next⟩

theorem forItems {action : α → Action Unit} (each : ∀ item, Checks (action item)) (items : List α) :
    Checks (Action.forItems action items) := by
  induction items with
  | nil => exact pass
  | cons item rest ih => exact .bind (each item) ih

end Checks

end ScriptedShell.Script.Action
