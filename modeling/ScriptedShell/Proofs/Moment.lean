import ScriptedShell.Proofs.Balance
import ScriptedShell.Script.Standard

/-!
The moments of runs. A run starts with an operation in a session that can be reached, and goes on until
the operation has ended as the session's own operations say.
-/

namespace ScriptedShell

open Machine

/-- What a session is asked for from outside. -/
inductive Operation : Stage → Type where
  | line (line : String) : Operation .command
  | script (source : String) : Operation .command
  | command (command : Command) : Operation .command
  | words (index : Nat) (words : List Word) : Operation .words
  | request (index : Nat) (request : BridgeRequest) : Operation .request

namespace Operation

variable {stage : Stage}

def run [Script.Language] : {stage : Stage} → Operation stage → Run stage.Answer
  | _, .line text => Session.runLine text
  | _, .script source => Session.runScript source
  | _, .command asked => Session.executeCommand asked
  | _, .words index asked => Session.runBridgeWords index asked
  | _, .request index asked => Bridge.perform Session.nested index asked

def control : {stage : Stage} → Operation stage → Control stage
  | _, .line text => .line 0 text
  | _, .script source => .lines 1 (Session.linesOf source)
  | _, .command asked => .command asked
  | _, .words index asked => .bridge index asked
  | _, .request index asked => .request index asked

theorem meaning_control [Script.Language] (operation : Operation stage) :
    meaning Session.nested operation.control = operation.run := by
  cases operation <;> rfl

end Operation

/-- What else the host does with a session. -/
inductive Change where
  | assign (name value : String)
  | declare (name : String)
  | markExported (name : String)
  | define (name : String) (body : Command)
  | extend (name : String) (extension : Extension)
  | attach (settings : Settings)
  | supply (files : FileTree)
  | dropShell
  | takeEvents

def Change.apply (change : Change) (session : Session) : Session :=
  match change with
  | .assign name value => { session with shell := session.shell.assign name value }
  | .declare name =>
    { session with
      shell := { session.shell with bindings := session.shell.bindings.declare name } }
  | .markExported name =>
    { session with
      shell := { session.shell with bindings := session.shell.bindings.markExported name } }
  | .define name body => { session with shell := session.shell.defineFunction name body }
  | .extend name extension => { session with shell := session.shell.extend name extension }
  | .attach settings => session.attach settings
  | .supply files => { session with files }
  | .dropShell => { session with shellPresent := false }
  | .takeEvents => session.takeEvents.2

namespace Session

inductive Reachable [Script.Language] : Session → Prop where
  | new (settings : HostSettings) (files : FileTree) : Reachable (Session.new settings files)
  | change {session : Session} (reached : Reachable session) (change : Change) :
      Reachable (change.apply session)
  | operation {session : Session} {stage : Stage} (reached : Reachable session)
      (operation : Operation stage) : Reachable (operation.run.after session)

/-- Nothing runs. Every session that can be reached is at rest. -/
structure Resting (session : Session) : Prop where
  frames : session.shell.frames = []
  depth : session.shell.depth = 0
  idle : ∀ index, (session.bridge index).busy = false

theorem Resting.balanced {session : Session} (resting : session.Resting) :
    session.Balanced session.limits 0 [] where
  within := rfl
  frames := congrArg List.length resting.frames
  depth := resting.depth
  allowed := Nat.zero_le _
  busy := by
    intro index
    simp [resting.idle index]
  started := nofun
  once := .nil

theorem Resting.undisturbed {owner : Option Nat} {before after : Session}
    (resting : before.Resting) (undisturbed : before.Undisturbed owner after) : after.Resting where
  frames := undisturbed.shell.frames.trans resting.frames
  depth := undisturbed.shell.depth.trans resting.depth
  idle := fun index => (undisturbed.bridges index).busy.trans (resting.idle index)

theorem bridge_attach_busy (session : Session) (settings : Settings)
    (idle : ∀ index, (session.bridge index).busy = false) (index : Nat) :
    ((session.attach settings).bridge index).busy = false := by
  have old := idle index
  simp only [Session.bridge, attach, List.getD, List.getElem?_append] at old ⊢
  split
  · exact old
  · cases index - session.bridges.length with
    | zero => rfl
    | succ rest => rfl

theorem Resting.change {session : Session} (resting : session.Resting) (change : Change) :
    (change.apply session).Resting := by
  cases change with
  | attach settings =>
      exact ⟨resting.frames, resting.depth, bridge_attach_busy session settings resting.idle⟩
  | _ => exact ⟨resting.frames, resting.depth, resting.idle⟩

theorem Resting.changeBridge {session : Session} (resting : session.Resting) (index : Nat)
    {f : Bridge → Bridge} (same : ∀ bridge, (f bridge).busy = bridge.busy) :
    (session.changeBridge index f).Resting where
  frames := resting.frames
  depth := resting.depth
  idle := fun other =>
    (session.view_changeBridge index other Bridge.busy same).trans (resting.idle other)

theorem runNumbered_keeps [Script.Language] (number : Int32) (line : String) :
    Run.Keeps none (runNumbered number line) := by
  refine .look fun session => ?_
  split
  · exact .pure _
  · exact Execution.refuse_keeps _
  · exact nested_keeps _

theorem runLines_keeps [Script.Language] (number : Nat) (lines : List String) :
    Run.Keeps none (runLines number lines) := by
  induction lines generalizing number with
  | nil => exact .pure ()
  | cons line rest ih => exact .bind (runNumbered_keeps _ line) fun _ => ih (number + 1)

end Session

theorem Operation.run_keeps [Script.Language] {stage : Stage} (operation : Operation stage) :
    Run.Keeps none operation.run := by
  cases operation with
  | line line => exact Session.runNumbered_keeps 0 line
  | script source =>
      exact .bind (Session.runLines_keeps 1 _) fun _ => .look fun _ => .pure _
  | command command => exact Session.nested_keeps command
  | words index words => exact Bridge.runWords_keeps Session.nested_keeps index words
  | request index request => exact Bridge.perform_keeps Session.nested_keeps index request

theorem Session.Reachable.resting [Script.Language] {session : Session} (reached : session.Reachable) :
    session.Resting := by
  induction reached with
  | new settings files => exact ⟨rfl, rfl, fun _ => rfl⟩
  | change _ change ih => exact ih.change change
  | operation _ operation ih => exact ih.undisturbed (operation.run_keeps _)

namespace Machine

variable {stage : Stage}

/-- Every piece of a run ends, with what the operation that it stands for gives, and then what waited
for it at its start waits for it still. -/
theorem reaches_meaning [Script.Language] {limits : Session.Limits} {control : Control stage}
    {waiting : Waiting stage} {session : Session}
    (balanced : Config.Balanced limits ⟨control, waiting, session⟩) :
    Reaches ⟨control, waiting, session⟩
      (waiting.await (meaning Session.nested control) session) := by
  have simulates := simulates_nested (session.room + 1)
  have keeps := Session.nested_keeps
  have room := Nat.lt_succ_self session.room
  cases control with
  | lines number lines => exact reaches_lines number lines waiting session
  | line number line => exact reaches_line number line waiting session
  | command command => exact simulates command waiting session room
  | words line words => exact reaches_words keeps simulates line words waiting (by omega)
  | bridge index words => exact reaches_bridge keeps simulates index words waiting (by omega)
  | request index request =>
      exact reaches_request keeps simulates index request waiting (by omega)
  | script index talk =>
      exact reaches_script keeps simulates talk waiting (balanced.bound List.mem_cons_self) room
  | answer answer => exact .refl

def begin (operation : Operation stage) (session : Session) : Config :=
  ⟨operation.control, .nobody, session⟩

theorem balanced_begin (operation : Operation stage) {session : Session}
    (resting : session.Resting) : (begin operation session).Balanced session.limits := by
  have balanced := resting.balanced
  cases operation <;> exact balanced

theorem reaches_begin [Script.Language] (operation : Operation stage) {session : Session}
    (resting : session.Resting) :
    Reaches (begin operation session) (Waiting.nobody.await operation.run session) := by
  have ended := reaches_meaning (balanced_begin operation resting)
  rwa [Operation.meaning_control] at ended

theorem Reaches.onward [Script.Language] {first last : Config} (ended : step last = none) {config : Config}
    (whole : Reaches first last) (part : Reaches first config) : Reaches config last := by
  have single : Relator.RightUnique fun config next => step config = some next := by
    intro config left right toLeft toRight
    exact Option.some.inj (toLeft.symm.trans toRight)
  rcases Relation.ReflTransGen.total_of_right_unique single whole part with back | onward
  · rcases Relation.ReflTransGen.cases_head back with rfl | ⟨next, stepped, _⟩
    · exact .refl
    · rw [ended] at stepped
      contradiction
  · exact onward

theorem Reaches.eq_of_ended [Script.Language] {first left right : Config} (leftEnded : step left = none)
    (rightEnded : step right = none) (toLeft : Reaches first left)
    (toRight : Reaches first right) : left = right := by
  rcases Relation.ReflTransGen.cases_head (toLeft.onward leftEnded toRight) with
    same | ⟨next, stepped, _⟩
  · exact same.symm
  · rw [rightEnded] at stepped
    contradiction

theorem Reaches.runs_eq [Script.Language] {first : Config} {session : Session} {left right : Run stage.Answer}
    (toLeft : Reaches first (Waiting.nobody.await left session))
    (toRight : Reaches first (Waiting.nobody.await right session)) :
    left session = right session := by
  have same := toLeft.eq_of_ended rfl rfl toRight
  simp only [Waiting.await, Waiting.hear, Config.mk.injEq, Control.answer.injEq, heq_eq_eq,
    true_and] at same
  exact Prod.ext same.1 same.2

def greeting : Session :=
  (Change.define "greet" (.ofWords .version3 [.literal "true"])).apply
    (Session.new {} .bare)

def greet : Operation .command :=
  .command (.ofWords .version3 [.literal "greet", .literal "world"])

def insideGreet : Config where
  control := .command (.ofWords .version3 [.literal "true"])
  waiting := .function (.command false .nobody)
  session := { greeting with shell := greeting.shell.enterFunction ["world"] }

theorem greeting_reachable : greeting.Reachable :=
  .change (.new {} .bare) (.define "greet" _)

theorem reaches_insideGreet : Reaches (begin greet greeting) insideGreet :=
  .first rfl (.single rfl)

def printer : Script.Engine :=
  Script.Intrinsic.addFunction Script.Intrinsic.global ⟨"print", 1, .print⟩ Script.Intrinsic.start

def printing : Session :=
  ((Session.new {} .bare).attach {}).changeBridge 0 fun bridge =>
    { bridge with shape := some .version3, engine := some printer }

theorem printing_resting : printing.Resting :=
  ((Session.Reachable.new {} .bare).resting.change (.attach {})).changeBridge 0 fun _ => rfl

end Machine

end ScriptedShell
