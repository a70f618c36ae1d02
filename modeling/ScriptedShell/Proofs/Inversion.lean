import ScriptedShell.Proofs.LastStatus
import ScriptedShell.Proofs.LineJoin
import ScriptedShell.Script.Standard

/-!
Inversion. A `!` in front of a line is a word of its own, and the words behind it are read as if it were not
there. They run once, by the same way, and only when they have ended is the status turned around.
-/

namespace ScriptedShell

open Quoting

theorem lexLine_inverting (line : String) :
    lexLine ("! " ++ line) = (lexLine line).map (plain "!" :: ·) := by
  have holds : Lexer.Holds (Lexer.scan {} "!".toList) [plain "!"] := .inside [] _
  have blanks : isBlank ' ' = true := by decide
  exact lexLine_joined holds blanks line

namespace Execution

theorem refusal?_invert (shell : Shell) (command : Command) :
    refusal? shell command.invert = refusal? shell command := by
  simp only [refusal?, Command.shape_invert, Command.redirections_invert, Command.line_invert]

theorem executeWith_inverting [Script.Language] {session : Session} {command : Command} (nested : Nested)
    (upright : command.inverted = false) (accepted : refusal? session.shell command = none) :
    executeWith nested command.invert session =
      (executeWith nested command >>= fun status => finish status.inverted) session := by
  let ran := runWords nested command.line command.words session
  have alone : executeWith nested command session = (finish ran.1) ran.2 := by
    rw [executeWith, Run.get_bind, accepted, upright]
    rfl
  rw [Run.bind_of_eq _ alone, executeWith, Run.get_bind, refusal?_invert, accepted,
    Command.line_invert, Command.words_invert, Command.inverted_invert]
  rfl

end Execution

namespace Session

theorem executeCommand_inverting [Script.Language] {session : Session} {command : Command}
    (upright : command.inverted = false)
    (accepted : Execution.refusal? session.shell command = none) :
    executeCommand command.invert session =
      (executeCommand command >>= fun status => Execution.finish status.inverted) session := by
  have bounded : session.nestingBound = session.nestingBound - 1 + 1 := by
    simp only [nestingBound]
    omega
  have executed (command : Command) : executeCommand command session =
      Execution.executeWith (execute (session.nestingBound - 1)) command session := by
    rw [executeCommand, nested, Run.get_bind, bounded]
    rfl
  rw [executed, Execution.executeWith_inverting _ upright accepted]
  exact congrArg (fun ended : Status × Session => Execution.finish ended.1.inverted ended.2)
    (executed command).symm

theorem readLine_inverting {line : String} {first : Word} {rest : List Word} {shape : RecordShape}
    {shell : Shell} (lexed : lexLine line = .ok (first :: rest)) (shaped : shell.shape = some shape)
    (number : Int32) :
    readLine shell number ("! " ++ line) =
      .command ((Command.ofWords shape (first :: rest)).atLine number).invert := by
  have inverts : isInversion (plain "!") = true := by decide
  simp [readLine, lexLine_inverting, lexed, Except.map, splitInversion, inverts, Command.make, shaped]

/-- A line with a `!` in front does what the line does, and only then is its status turned around. -/
theorem runNumbered_inverting [Script.Language] {line : String} {first : Word} {rest : List Word}
    {shape : RecordShape} {session : Session} (lexed : lexLine line = .ok (first :: rest))
    (upright : isInversion first = false) (shaped : session.shell.shape = some shape) (number : Int32) :
    runNumbered number ("! " ++ line) session =
      (runNumbered number line >>= fun status => Execution.finish status.inverted) session := by
  let command : Command := (Command.ofWords shape (first :: rest)).atLine number
  have alone : runNumbered number line session = executeCommand command session := by
    rw [runNumbered, Run.get_bind, readLine_eq_command lexed upright shaped]
  have accepted : Execution.refusal? session.shell command = none :=
    Execution.refusal?_eq_none (by simp [command, shaped]) (by simp [command])
  have inverted : runNumbered number ("! " ++ line) session =
      executeCommand command.invert session := by
    rw [runNumbered, Run.get_bind, readLine_inverting lexed shaped]
  have upright : command.inverted = false := by simp [command]
  rw [inverted, executeCommand_inverting upright accepted]
  exact congrArg (fun ended : Status × Session => Execution.finish ended.1.inverted ended.2) alone.symm

end Session

/-- A `!` in front of a line changes the status that the line ends with, and nothing else: whatever the line
starts, the two runs leave the same session but for the last status. -/
theorem inversion_changes_status [Script.Language] {session : Session} {line : String} {first : Word}
    {rest : List Word} {shape : RecordShape} (shaped : session.shell.shape = some shape)
    (lexed : lexLine line = .ok (first :: rest)) (upright : Session.isInversion first = false) :
    let alone := Session.runLine line session
    let inverted := Session.runLine ("! " ++ line) session
    inverted.1 = (if alone.1 = .success then .failure else .success) ∧
      alone.2.shell.lastStatus = alone.1 ∧
      inverted.2.shell.lastStatus = inverted.1 ∧
      inverted.2 = { alone.2 with shell := { alone.2.shell with lastStatus := inverted.1 } } := by
  intro alone inverted
  have same : inverted = Execution.finish alone.1.inverted alone.2 :=
    Session.runNumbered_inverting lexed upright shaped 0
  refine ⟨?status, ?aloneLast, ?invertedLast, ?rest⟩
  case status =>
    rw [same]
    rfl
  case aloneLast => exact Session.runNumbered_answersLast 0 line session
  case invertedLast => exact Session.runNumbered_answersLast 0 ("! " ++ line) session
  case rest =>
    rw [same]
    rfl

def excusing : Session :=
  let shell := ((Session.new {} .bare).shell.extend "rec" (.recorder "rec" 3)).defineFunction "excuse"
    ((Command.ofWords .version3 [.literal "rec", .ofText "$1"]).invert)
  { Session.new {} .bare with shell }

theorem inversion_changes_status_twice :
    let line := "excuse 'a b' # !"
    let alone := Session.runLine line excusing
    let inverted := Session.runLine ("! " ++ line) excusing
    let told : List Event := [.recorded "rec" [.literal "a b"]]
    alone.1 = .success ∧ inverted.1 = .failure ∧
      alone.2.events.toList = told ∧ inverted.2.events.toList = told ∧
      inverted.2 = { alone.2 with shell := { alone.2.shell with lastStatus := .failure } } := by
  intro line alone inverted told
  have lexed : lexLine line = .ok [plain "excuse", guarded "a b"] := by decide
  have excused : alone.1 = .success := by decide +kernel
  have recorded : alone.2.events.toList = told := by decide +kernel
  have shaped : excusing.shell.shape = some .version3 := rfl
  obtain ⟨status, _, _, same⟩ := inversion_changes_status shaped lexed (by decide)
  have failed : inverted.1 = .failure := status.trans (if_pos excused)
  have left : inverted.2 = { alone.2 with shell := { alone.2.shell with lastStatus := inverted.1 } } :=
    same
  rw [failed] at left
  have kept : inverted.2.events = alone.2.events := by rw [left]
  exact ⟨excused, failed, recorded, by rw [kept, recorded], left⟩

end ScriptedShell
