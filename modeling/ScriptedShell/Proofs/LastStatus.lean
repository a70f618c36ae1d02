import ScriptedShell.Proofs.BridgeLife
import ScriptedShell.Proofs.CommandRun
import ScriptedShell.Proofs.LexedWord
import ScriptedShell.Proofs.Move
import ScriptedShell.Proofs.ScriptView
import ScriptedShell.Script.Standard

/-!
The last status. A command sets it as the last thing it does, after whatever runs inside it, so it is the
status that the command's caller gets, be that a line, a function or a script.
-/

namespace ScriptedShell

open Machine

/-- The status that a run answers with is the last one when it ends. -/
def Run.AnswersLast (run : Run Status) : Prop :=
  ∀ session : Session, (run.after session).shell.lastStatus = run.result session

theorem Run.AnswersLast.bind {α : Type} {run : Run α} {next : α → Run Status}
    (rest : ∀ value, (next value).AnswersLast) : (run >>= next).AnswersLast :=
  fun session => rest (run.result session) (run.after session)

namespace Execution

theorem finish_answersLast (status : Status) : (finish status).AnswersLast :=
  fun _ => rfl

theorem refuse_answersLast (complaint : String) : (refuse complaint).AnswersLast :=
  .bind fun _ => finish_answersLast .failure

theorem executeWith_answersLast [Script.Language] (nested : Nested) (command : Command) :
    (executeWith nested command).AnswersLast := by
  refine .bind fun session => ?_
  split
  · exact refuse_answersLast _
  · exact .bind fun _ => finish_answersLast _

end Execution

theorem execute_answersLast [Script.Language] (bound : Nat) (command : Command) :
    (execute (bound + 1) command).AnswersLast :=
  Execution.executeWith_answersLast (execute bound) command

namespace Session

variable [Script.Language]

theorem executeCommand_answersLast (command : Command) : (executeCommand command).AnswersLast := by
  intro session
  obtain ⟨bound, _, same⟩ := session.executeCommand_eq_execute command
  rw [Run.after, Run.result, same]
  exact execute_answersLast bound command session

theorem runNumbered_answersLast (number : Int32) (line : String) :
    (runNumbered number line).AnswersLast := by
  intro session
  simp only [runNumbered, Run.after, Run.result, Run.get_bind]
  cases readLine session.shell number line with
  | nothing => rfl
  | refused complaint => exact Execution.refuse_answersLast complaint session
  | command command => exact executeCommand_answersLast command session

theorem runScript_answersLast (source : String) : (runScript source).AnswersLast :=
  .bind fun _ _ => rfl

theorem runNumbered_blank {line : String} (blank : isBlankLine line = true) (number : Int32)
    (session : Session) :
    runNumbered number line session = (session.shell.lastStatus, session) := by
  rw [runNumbered, Run.get_bind, readLine, (lexLine_eq_nil_iff line).mpr blank]
  rfl

end Session

namespace Bridge

variable {session : Session} {index : Nat} {shape : RecordShape}

theorem commandOfTexts_ok (shape : RecordShape) {words : List String} (given : words ≠ []) :
    commandOfTexts (some shape) words = .ok (.ofWords shape (words.map Word.ofText)) := by
  have some : words.isEmpty = false := by simpa using given
  rw [commandOfTexts, some]
  rfl

theorem answer_call [Script.Language] (known : (session.bridge index).shape = some shape)
    (engine : Script.Engine) {words : List String} (given : words ≠ []) :
    ∃ (last : Script.Engine) (after : Session),
      answer Session.nested index engine (.call words) session =
        ((.ok after.shell.lastStatus, last), after) := by
  let stored := session.stored index engine
  let command : Command := (.ofWords shape (words.map Word.ofText))
  have read : commandOfTexts (stored.bridge index).shape words = .ok command := by
    rw [session.shape_stored index engine, known]
    exact commandOfTexts_ok shape given
  let after := (Session.executeCommand command).after stored
  have last := Session.executeCommand_answersLast command stored
  refine ⟨after.engine index, after, (answer_call_ok read).trans ?_⟩
  rw [last]
  rfl

end Bridge

namespace Script

theorem ShellCall.call_yields (call : Caller) {host : Host} {engine middle asked last : Engine}
    {session between present after : Session} {arguments : List Value} {words : List String}
    {status : Status}
    (converted : (Action.mapItems (Convert.hostText call) arguments).Yields host engine session words
      middle between)
    (presence : host middle .presence between = ((.ok (), asked), present))
    (answered : host asked (.call words) present = ((.ok status, last), after)) :
    (run call .call arguments).Yields host engine session (.ofFloat status.toFloat) last after := by
  rw [run, if_neg (by simp [ShellFunction.required])]
  refine .bind converted (.bind (.bind (.ask presence) (.pure ())) ?_)
  exact .bind (.ask answered) (.bind (.pure status) (.pure _))

end Script

namespace Machine

variable {stage : Stage}

def Control.AnswersLast (session : Session) : {stage : Stage} → Control stage → Prop
  | .command, .answer status => session.shell.lastStatus = status
  | _, _ => True

def Config.AnswersLast (config : Config) : Prop :=
  config.control.AnswersLast config.session

theorem answersLast_await {waiting : Waiting .command} {run : Run Status} {session : Session}
    (answers : run.AnswersLast) : (waiting.await run session).AnswersLast :=
  answers session

/-- Whatever happened before, a command that answers leaves its answer as the last status. -/
theorem answersLast_step [Script.Language] {config next : Config} (stepped : step config = some next) :
    next.AnswersLast := by
  cases Move.of_step stepped with
  | textEnded => rfl
  | lineBlank => rfl
  | lineRefused => exact answersLast_await (Execution.refuse_answersLast _)
  | refused => exact answersLast_await (Execution.refuse_answersLast _)
  | finished => exact answersLast_await (Execution.finish_answersLast _)
  | _ => trivial

theorem answersLast_reaches [Script.Language] {first last : Config} (answers : first.AnswersLast)
    (reaches : Reaches first last) : last.AnswersLast := by
  cases reaches with
  | refl => exact answers
  | tail _ stepped => exact answersLast_step stepped

theorem answersLast_begin (operation : Operation stage) (session : Session) :
    (begin operation session).AnswersLast := by
  cases operation <;> trivial

/-- What holds of the last status at a moment of a run, of what has just ended and of all that can be run
from there. -/
structure LastStatusRule [Script.Language] (config : Config) : Prop where
  answered : config.AnswersLast
  /-- A script goes on with the last status as the reply. -/
  replied : ∀ {index : Nat} {next : Except Fault Status → Script.Engine → Talk}
    {outer : Waiting .request} {session : Session} {status : Status},
    config = ⟨.answer status, .script index next outer, session⟩ →
    step config =
      some ⟨.script index (next (.ok session.shell.lastStatus) (session.engine index)), outer, session⟩
  command : ∀ command : Command,
    ((Session.executeCommand command).after config.session).shell.lastStatus =
      (Session.executeCommand command).result config.session
  line : ∀ (number : Int32) (line : String),
    ((Session.runNumbered number line).after config.session).shell.lastStatus =
      (Session.runNumbered number line).result config.session
  blankLine : ∀ (number : Int32) (line : String), isBlankLine line = true →
    Session.runNumbered number line config.session =
      (config.session.shell.lastStatus, config.session)
  script : ∀ source : String,
    ((Session.runScript source).after config.session).shell.lastStatus =
      (Session.runScript source).result config.session
  call : ∀ {index : Nat}, (config.session.bridge index).isInitialized = true →
    ∀ (engine : Script.Engine) (words : List String), words ≠ [] →
    ∃ (last : Script.Engine) (after : Session),
      Bridge.answer Session.nested index engine (.call words) config.session =
        ((.ok after.shell.lastStatus, last), after)
  /-- The number that the script gets. Its arguments may be anything that can be made a text. -/
  number : ∀ {index : Nat}, (config.session.bridge index).isInitialized = true →
    config.session.shellPresent = true →
    ∀ (caller : Script.Caller) {engine middle : Script.Engine} {between : Session}
      {arguments : List Script.Value} {words : List String}, words ≠ [] →
    (Script.Action.mapItems (Script.Convert.hostText caller) arguments).Yields
      (Bridge.answer Session.nested index) engine config.session words middle between →
    ∃ (last : Script.Engine) (after : Session),
      (Script.ShellCall.run caller .call arguments).Yields (Bridge.answer Session.nested index) engine
        config.session (.ofFloat after.shell.lastStatus.toFloat) last after

/-- At every moment of a run, the status that a command, a line, a text of lines or a script's call of a
command answers with is the last one, whatever ran inside. -/
theorem last_status_returned [Script.Language] (operation : Operation stage) {start : Session}
    {config : Config} (reached : start.Reachable) (reaches : Reaches (begin operation start) config) :
    LastStatusRule config := by
  obtain ⟨settings, files, updates, occurs⟩ := reached.occurs_running reaches
  have answers := answersLast_reaches (answersLast_begin operation start) reaches
  have known {index : Nat} (started : (config.session.bridge index).isInitialized = true) :
      ∃ shape, (config.session.bridge index).shape = some shape :=
    Option.isSome_iff_exists.mp (occurs.shaped index started)
  refine
    { answered := answers
      replied := ?replied
      command := fun command => Session.executeCommand_answersLast command _
      line := fun number line => Session.runNumbered_answersLast number line _
      blankLine := fun number line blank => Session.runNumbered_blank blank number _
      script := fun source => Session.runScript_answersLast source _
      call := ?call
      number := ?number }
  case replied =>
    rintro index next outer session status rfl
    have last : session.shell.lastStatus = status := answers
    rw [last]
    rfl
  case call =>
    intro index started engine words given
    obtain ⟨shape, known⟩ := known started
    exact Bridge.answer_call known engine given
  case number =>
    intro index started present caller engine middle between arguments words given converted
    obtain ⟨shape, known⟩ := known started
    obtain ⟨own, held⟩ := Option.isSome_iff_exists.mp started
    have kept := Bridge.conduct_keeps Session.nested_keeps (Session.bound_of_engine held)
      (Script.Action.mapItems (Script.Convert.hostText caller) arguments engine)
    rw [Run.after, converted] at kept
    have bound : index < between.bridges.length := kept.count ▸ Session.bound_of_engine held
    have presence := Bridge.answer_presence Session.nested (kept.shellPresent.trans present) bound middle
    have shaped := ((kept.bridges index).shape (known ▸ rfl)).trans known
    have stored := (between.shape_stored index middle).trans shaped
    obtain ⟨last, after, answered⟩ := Bridge.answer_call stored middle given
    exact ⟨last, after, Script.ShellCall.call_yields caller converted presence answered⟩

theorem last_status_returned_inside_function :
    let failing : Command := (.ofWords .version3 [.literal "false"])
    let after := (Session.executeCommand failing).after insideGreet.session
    after.shell.lastStatus = .failure ∧
      Session.runNumbered 0 "  # a comment" after = (.failure, after) := by
  intro failing after
  have rule := last_status_returned greet greeting_reachable reaches_insideGreet
  have failed : after.shell.lastStatus = .failure := rule.command failing
  refine ⟨failed, ?_⟩
  rw [← failed]
  exact Session.runNumbered_blank (by decide) 0 after

end Machine

end ScriptedShell
