import ScriptedShell.Bridge
import ScriptedShell.Program

/-!
A session: a shell, the bridges attached to it, the files they see, and the events so far. Everything
that runs is a step from one session to the next.
-/

namespace ScriptedShell

/-- What can be seen of a run from outside. -/
inductive Event where
  | output (text : String)
  | diagnostic (text : String)
  | recorded (name : String) (words : List Word)
  | logged (level : Script.ConsoleLevel) (text : String)
  /-- A bridge calls a global function of its engine. -/
  | scriptCalled (bridge : Nat) (function : String) (arguments : List String)
  | programStarted (name : String) (arguments : List String)
  /-- Commands were nested deeper than the bound of `Session.nestingBound`. -/
  | nestingExhausted
deriving DecidableEq, Repr

structure Session where
  shell : Shell
  /-- Bridges reach the shell only as long as it is there. -/
  shellPresent : Bool := true
  bridges : List Bridge := []
  files : FileTree
  /-- In the order in which they happened. -/
  events : Array Event := #[]

abbrev Run := StateM Session

namespace Session

def new (settings : HostSettings) (files : FileTree) : Session where
  shell := Shell.new settings
  files

/-- Commands nest at most once for each function that may run, once for each bridge that may be
busy, and once more. -/
def nestingBound (session : Session) : Nat :=
  1 + session.shell.settings.maxCallDepth.toNat + session.bridges.length

def bridge (session : Session) (index : Nat) : Bridge :=
  session.bridges.getD index default

def engine (session : Session) (index : Nat) : Script.Engine :=
  (session.bridge index).engine.getD default

def changeBridge (session : Session) (index : Nat) (f : Bridge → Bridge) : Session :=
  { session with bridges := session.bridges.modify index f }

def occupied (session : Session) (index : Nat) : Session :=
  session.changeBridge index fun bridge => { bridge with busy := true }

def stored (session : Session) (index : Nat) (engine : Script.Engine) : Session :=
  session.changeBridge index fun bridge => { bridge with engine := some engine }

def released (session : Session) (index : Nat) (engine : Script.Engine) : Session :=
  session.changeBridge index fun bridge => { bridge with engine := some engine, busy := false }

theorem bridge_eq_of_getElem? {session : Session} {index : Nat} {bridge : Bridge}
    (found : session.bridges[index]? = some bridge) : session.bridge index = bridge := by
  simp [Session.bridge, List.getD, found]

theorem bound_of_engine {session : Session} {index : Nat} {engine : Script.Engine}
    (present : (session.bridge index).engine = some engine) : index < session.bridges.length := by
  apply Decidable.byContradiction
  intro outside
  rw [Session.bridge, List.getD, List.getElem?_eq_none (Nat.le_of_not_lt outside)] at present
  contradiction

theorem engine_eq_of_present {session : Session} {index : Nat} {engine : Script.Engine}
    (present : (session.bridge index).engine = some engine) : session.engine index = engine := by
  rw [Session.engine, present]
  rfl

theorem changeBridge_length (session : Session) (index : Nat) (f : Bridge → Bridge) :
    (session.changeBridge index f).bridges.length = session.bridges.length := by
  simp [changeBridge]

theorem bridge_changeBridge_self {session : Session} {index : Nat} (f : Bridge → Bridge)
    (bound : index < session.bridges.length) :
    (session.changeBridge index f).bridge index = f (session.bridge index) := by
  simp [Session.bridge, changeBridge, List.getD, bound]

theorem bridge_changeBridge_of_ne (session : Session) {index other : Nat} (f : Bridge → Bridge)
    (different : other ≠ index) :
    (session.changeBridge index f).bridge other = session.bridge other := by
  simp [Session.bridge, changeBridge, List.getD, Ne.symm different]

theorem view_changeBridge {α : Type} (session : Session) (index other : Nat) {f : Bridge → Bridge}
    (view : Bridge → α) (same : ∀ bridge, view (f bridge) = view bridge) :
    view ((session.changeBridge index f).bridge other) = view (session.bridge other) := by
  by_cases different : other = index
  · subst different
    by_cases bound : other < session.bridges.length
    · rw [bridge_changeBridge_self f bound, same]
    · simp [Session.bridge, changeBridge, List.getD, bound]
  · rw [bridge_changeBridge_of_ne session f different]

def attach (session : Session) (settings : Settings) : Session :=
  { session with
    bridges := session.bridges ++ [{ settings }]
    shell := session.shell.extend settings.builtinName (.bridge session.bridges.length) }

def takeEvents (session : Session) : List Event × Session :=
  (session.events.toList, { session with events := #[] })

end Session

namespace Run

def emit (event : Event) : Run Unit :=
  modify fun session => { session with events := session.events.push event }

def emitText (event : String → Event) (text : String) : Run Unit :=
  if text.isEmpty then pure () else emit (event text)

def changeShell (f : Shell → Shell) : Run Unit :=
  modify fun session => { session with shell := f session.shell }

def changeBridge (index : Nat) (f : Bridge → Bridge) : Run Unit :=
  modify fun session => session.changeBridge index f

def result {α : Type} (run : Run α) (session : Session) : α :=
  (run session).1

def after {α : Type} (run : Run α) (session : Session) : Session :=
  (run session).2

section

variable {α β : Type} (session : Session)

@[simp] theorem result_pure (value : α) : result (pure value) session = value :=
  rfl

@[simp] theorem after_pure (value : α) : after (pure value) session = session :=
  rfl

@[simp] theorem result_bind (run : Run α) (next : α → Run β) :
    result (run >>= next) session = result (next (run.result session)) (run.after session) :=
  rfl

@[simp] theorem after_bind (run : Run α) (next : α → Run β) :
    after (run >>= next) session = after (next (run.result session)) (run.after session) :=
  rfl

theorem bind_of_eq {run : Run α} {value : α} {middle : Session}
    (same : run session = (value, middle)) (next : α → Run β) :
    (run >>= next) session = next value middle := by
  change (let (value, middle) := run session; next value middle) = _
  rw [same]

theorem get_bind (next : Session → Run β) : (get >>= next : Run β) session = next session session :=
  rfl

@[simp] theorem result_get : result get session = session :=
  rfl

@[simp] theorem after_get : after get session = session :=
  rfl

@[simp] theorem after_set (next : Session) : after (set next) session = next :=
  rfl

@[simp] theorem after_emit (event : Event) :
    after (emit event) session = { session with events := session.events.push event } :=
  rfl

@[simp] theorem after_changeShell (f : Shell → Shell) :
    after (changeShell f) session = { session with shell := f session.shell } :=
  rfl

@[simp] theorem after_changeBridge (index : Nat) (f : Bridge → Bridge) :
    after (changeBridge index f) session = session.changeBridge index f :=
  rfl

end

end Run

end ScriptedShell
