import ScriptedShell.Fault
import ScriptedShell.Script.Engine

/-!
A script's run as a dialogue with its host: it asks for something, goes on with the reply, and ends
with a result. What the script does is thus fixed before there is a host, and a law about all runs
needs an induction over dialogues only.
-/

namespace ScriptedShell.Script

inductive HostRequest where
  /-- Is there still a shell? -/
  | presence
  /-- Make a shell function that calls the script function of the same name. -/
  | register (name : String)
  | getVariable (name : String)
  | setVariable (name value : String)
  | environment
  | call (words : List String)
  | print (line : String)
  | log (level : ConsoleLevel) (line : String)
deriving DecidableEq, Repr

@[reducible]
def HostRequest.Reply : HostRequest → Type
  | .presence => Except Fault Unit
  | .register _ => Except Fault Unit
  | .getVariable _ => Option String
  | .setVariable _ _ => Unit
  | .environment => List (String × Option String)
  | .call _ => Except Fault Status
  | .print _ => Unit
  | .log _ _ => Unit

/-- While the host acts on a request, the engine is in its hands, and the script goes on with the
engine that it gets back. -/
inductive Dialogue (α : Type) where
  | done (result : α)
  | ask (engine : Engine) (request : HostRequest) (next : request.Reply → Engine → Dialogue α)

namespace Dialogue

def bind {α β : Type} (dialogue : Dialogue α) (next : α → Dialogue β) : Dialogue β :=
  match dialogue with
  | .done result => next result
  | .ask engine request continuation =>
    .ask engine request fun reply engine => (continuation reply engine).bind next

theorem bind_bind {α β γ : Type} (dialogue : Dialogue α) (next : α → Dialogue β)
    (last : β → Dialogue γ) :
    (dialogue.bind next).bind last = dialogue.bind fun result => (next result).bind last := by
  induction dialogue with
  | done result => rfl
  | ask engine request continuation ih =>
      simp only [bind]
      congr 1
      funext reply engine
      exact ih reply engine

def map {α β : Type} (f : α → β) (dialogue : Dialogue α) : Dialogue β :=
  dialogue.bind fun result => .done (f result)

def conduct {m : Type → Type} [Monad m] {α : Type}
    (answer : Engine → (request : HostRequest) → m (request.Reply × Engine)) : Dialogue α → m α
  | .done result => pure result
  | .ask engine request next => do
    let (reply, engine) ← answer engine request
    (next reply engine).conduct answer

def absentReply : (request : HostRequest) → request.Reply
  | .presence => .error .hostGone
  | .register _ => .error .hostGone
  | .getVariable _ => none
  | .setVariable _ _ => ()
  | .environment => []
  | .call _ => .error .hostGone
  | .print _ => ()
  | .log _ _ => ()

def runAlone {α : Type} (dialogue : Dialogue α) : α :=
  dialogue.conduct (m := Id) fun engine request => (absentReply request, engine)

end Dialogue

end ScriptedShell.Script
