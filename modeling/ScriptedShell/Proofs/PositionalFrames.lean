import ScriptedShell.Proofs.Moment
import ScriptedShell.Script.Standard

/-!
The discipline of positional frames. What a shell function gets as its arguments stays until the
function ends, whatever it starts.
-/

namespace ScriptedShell

namespace Shell

def isPositional (name : String) : Bool :=
  name = "#" ∨ name = "@" ∨ name = "*" ∨ name.toList.all Char.isDigit

/-- The functions that run keep their arguments. -/
structure FramesKept (before after : Shell) : Prop where
  frames : after.frames = before.frames
  depth : after.depth = before.depth
  parameters : ∀ name, isPositional name → after.parameter name = before.parameter name
  allArguments : ∀ flags, after.expandWord ⟨allArguments, flags⟩ =
    before.expandWord ⟨allArguments, flags⟩

theorem arguments_eq_of_frames {before after : Shell} (frames : after.frames = before.frames) :
    after.arguments = before.arguments := by
  rw [arguments, arguments, frames]

theorem parameter_eq_of_frames {before after : Shell} (frames : after.frames = before.frames)
    {name : String} (positional : isPositional name) :
    after.parameter name = before.parameter name := by
  have notStatus : name ≠ "?" := by
    rintro rfl
    revert positional
    decide
  simp only [isPositional, decide_eq_true_eq] at positional
  simp only [parameter, notStatus, if_false, argumentAt, arguments_eq_of_frames frames]
  grind

theorem Undisturbed.framesKept {before after : Shell} (undisturbed : before.Undisturbed after) :
    before.FramesKept after where
  frames := undisturbed.frames
  depth := undisturbed.depth
  parameters := fun _ positional => parameter_eq_of_frames undisturbed.frames positional
  allArguments := by
    intro flags
    rw [expandWord, expandWord, arguments_eq_of_frames undisturbed.frames]
    simp only [if_true]

end Shell

namespace Machine

variable {stage : Stage}

theorem converse_shell [Script.Language] {α : Type} {session : Session} {index : Nat}
    (bound : index < session.bridges.length)
    (dialogue : Script.Dialogue (Except Fault α × Script.Engine)) :
    session.shell.Undisturbed
      ((Bridge.converse Session.nested index dialogue).after session).shell :=
  (Bridge.conduct_keeps Session.nested_keeps bound dialogue).shell

theorem meaning_shell [Script.Language] {limits : Session.Limits} {control : Control stage}
    {waiting : Waiting stage} {session : Session}
    (balanced : Config.Balanced limits ⟨control, waiting, session⟩) :
    session.shell.Undisturbed ((meaning Session.nested control).after session).shell := by
  have keeps := Session.nested_keeps
  cases control with
  | lines number lines => exact (Session.runLines_keeps number lines session).shell
  | line number line => exact (Session.runNumbered_keeps number line session).shell
  | command command => exact (keeps command session).shell
  | words line words => exact (Execution.runWords_keeps keeps line words session).shell
  | bridge index words =>
      exact (Bridge.runWords_keeps keeps index words session).shell
  | request index request =>
      exact (Bridge.perform_keeps keeps index request session).shell
  | script index talk => exact converse_shell (balanced.bound List.mem_cons_self) talk
  | answer answer => exact .refl _

/-- At every moment of a run there is one positional frame for each function, no more than are
allowed, and whatever runs then ends with the frames as they are. So does every operation and every
answer to a script's request. -/
theorem frames_kept [Script.Language] (operation : Operation stage) {start : Session} {config : Config}
    (reached : start.Reachable) (reaches : Reaches (begin operation start) config) :
    let session := config.session
    let running := meaning Session.nested config.control
    session.shell.depth = session.shell.frames.length ∧
      session.shell.depth ≤ start.shell.settings.maxCallDepth.toNat ∧
      Reaches config (config.waiting.await running session) ∧
      session.shell.FramesKept (running.after session).shell ∧
      (∀ {stage : Stage} (other : Operation stage),
        session.shell.FramesKept (other.run.after session).shell) ∧
      ∀ (index : Nat) (engine : Script.Engine) (request : Script.HostRequest),
        session.shell.FramesKept
          ((Bridge.answer Session.nested index engine request).after session).shell := by
  have balanced := balanced_reaches (balanced_begin operation reached.resting) reaches
  refine ⟨balanced.depth.trans balanced.frames.symm, ?_, reaches_meaning balanced,
    (meaning_shell balanced).framesKept, ?_, ?_⟩
  · rw [balanced.depth]
    exact balanced.allowed
  · intro stage other
    exact (other.run_keeps config.session).shell.framesKept
  · intro index engine request
    let stored := config.session.stored index engine
    have replied := Bridge.reply_keeps Session.nested_keeps (stored.bridge index) request stored
    exact replied.shell.framesKept

theorem frames_kept_inside_function :
    insideGreet.session.shell.frames = [["world"]] ∧
      ∀ operation : Operation .command,
        insideGreet.session.shell.FramesKept (operation.run.after insideGreet.session).shell := by
  obtain ⟨_, _, _, _, operations, _⟩ := frames_kept greet greeting_reachable reaches_insideGreet
  exact ⟨rfl, operations⟩

end Machine

end ScriptedShell
