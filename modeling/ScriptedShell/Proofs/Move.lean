import ScriptedShell.Proofs.Machine

/-!
The steps of a run, told apart by what happens in them. What holds of every step is proved here once, by
looking at the machine; the laws of runs then go through the cases by name.
-/

namespace ScriptedShell

structure Shell.Invokes (shell : Shell) (words : List Word) (fields : List String) : Prop where
  command : Shell.assignments? words = none
  expanded : shell.expandWords words = fields

namespace Machine

open Script (HostRequest)

variable [Script.Language]

/-- A step, with what decides that it is this one. -/
inductive Move : Config → Config → Prop where
  | textEnded {session : Session} {number : Nat} {waiting : Waiting .command} :
      Move ⟨.lines number [], waiting, session⟩ (waiting.hear session.shell.lastStatus session)
  | lineTaken {session : Session} {number : Nat} {line : String} {rest : List String}
      {waiting : Waiting .command} :
      Move ⟨.lines number (line :: rest), waiting, session⟩
        ⟨.line (Session.lineNumber number) line, .lines (number + 1) rest waiting, session⟩
  | lineBlank {session : Session} {number : Int32} {line : String} {waiting : Waiting .command}
      (read : Session.readLine session.shell number line = .nothing) :
      Move ⟨.line number line, waiting, session⟩ (waiting.hear session.shell.lastStatus session)
  | lineRefused {session : Session} {number : Int32} {line complaint : String}
      {waiting : Waiting .command}
      (read : Session.readLine session.shell number line = .refused complaint) :
      Move ⟨.line number line, waiting, session⟩ (waiting.await (Execution.refuse complaint) session)
  | lineRead {session : Session} {number : Int32} {line : String} {command : Command}
      {waiting : Waiting .command}
      (read : Session.readLine session.shell number line = .command command) :
      Move ⟨.line number line, waiting, session⟩ ⟨.command command, waiting, session⟩
  | refused {session : Session} {command : Command} {complaint : String}
      {waiting : Waiting .command}
      (refused : Execution.refusal? session.shell command = some complaint) :
      Move ⟨.command command, waiting, session⟩ (waiting.await (Execution.refuse complaint) session)
  | accepted {session : Session} {command : Command} {waiting : Waiting .command}
      (accepted : Execution.refusal? session.shell command = none) :
      Move ⟨.command command, waiting, session⟩
        ⟨.words command.line command.words, .command command.inverted waiting, session⟩
  | assigned {session : Session} {line : Int32} {words : List Word} {waiting : Waiting .words}
      {assignments : List (String × String)}
      (assigned : Shell.assignments? words = some assignments) :
      Move ⟨.words line words, waiting, session⟩
        (waiting.hear .success { session with shell := session.shell.assignAll assignments })
  | emptied {session : Session} {line : Int32} {words : List Word} {waiting : Waiting .words}
      (invoking : session.shell.Invokes words []) :
      Move ⟨.words line words, waiting, session⟩ (waiting.hear .success session)
  | tooDeep {session : Session} {line : Int32} {words : List Word} {waiting : Waiting .words}
      {name : String} {arguments : List String} {body : Command}
      (invoking : session.shell.Invokes words (name :: arguments))
      (found : session.shell.functions.find? name = some body)
      (full : session.shell.settings.maxCallDepth.toNat ≤ session.shell.depth) :
      Move ⟨.words line words, waiting, session⟩
        (waiting.await (Execution.refuseCall name session.shell.settings.maxCallDepth) session)
  | entered {session : Session} {line : Int32} {words : List Word} {waiting : Waiting .words}
      {name : String} {arguments : List String} {body : Command}
      (invoking : session.shell.Invokes words (name :: arguments))
      (found : session.shell.functions.find? name = some body)
      (room : session.shell.depth < session.shell.settings.maxCallDepth.toNat) :
      Move ⟨.words line words, waiting, session⟩
        ⟨.command body, .function waiting,
          { session with shell := session.shell.enterFunction arguments }⟩
  | bridgeAsked {session : Session} {line : Int32} {words : List Word} {waiting : Waiting .words}
      {name : String} {arguments : List String} {index : Nat}
      (invoking : session.shell.Invokes words (name :: arguments))
      (found : session.shell.extensions.find? name = some (.bridge index)) :
      Move ⟨.words line words, waiting, session⟩
        ⟨.bridge index (arguments.map Word.literal), waiting, session⟩
  | recorded {session : Session} {line : Int32} {words : List Word} {waiting : Waiting .words}
      {name own : String} {arguments : List String} {status : Status}
      (invoking : session.shell.Invokes words (name :: arguments))
      (found : session.shell.extensions.find? name = some (.recorder own status)) :
      Move ⟨.words line words, waiting, session⟩
        (waiting.await (Execution.record own status (arguments.map Word.literal)) session)
  | internal {session : Session} {line : Int32} {words : List Word} {waiting : Waiting .words}
      {name : String} {arguments : List String} {run : Run Status}
      (invoking : session.shell.Invokes words (name :: arguments))
      (known : Execution.runInternal? name arguments = some run) :
      Move ⟨.words line words, waiting, session⟩ (waiting.await run session)
  | program {session : Session} {line : Int32} {words : List Word} {waiting : Waiting .words}
      {name : String} {arguments : List String}
      (invoking : session.shell.Invokes words (name :: arguments)) :
      Move ⟨.words line words, waiting, session⟩
        (waiting.await (Execution.runProgram line name arguments) session)
  | malformed {session : Session} {index : Nat} {words : List Word} {waiting : Waiting .words}
      {fault : Fault} (read : BridgeRequest.ofWords words = .error fault) :
      Move ⟨.bridge index words, waiting, session⟩
        ((Waiting.bridge index waiting).hear (.error fault) session)
  | requested {session : Session} {index : Nat} {words : List Word} {waiting : Waiting .words}
      {request : BridgeRequest} (read : BridgeRequest.ofWords words = .ok request) :
      Move ⟨.bridge index words, waiting, session⟩
        ⟨.request index request, .bridge index waiting, session⟩
  | started {session : Session} {index : Nat} {waiting : Waiting .request} :
      Move ⟨.request index .start, waiting, session⟩
        (waiting.await (Bridge.perform noCommands index .start) session)
  | unstarted {session after : Session} {index : Nat} {path : String} {waiting : Waiting .request}
      {fault : Fault} (failed : Bridge.start index session = (.error fault, after)) :
      Move ⟨.request index (.load path), waiting, session⟩ (waiting.hear (.error fault) after)
  | loadKept {session after : Session} {index : Nat} {path : String} {waiting : Waiting .request}
      {fault : Fault} (ready : Bridge.start index session = (.ok (), after))
      (kept : Bridge.enter index after = (.error fault, after)) :
      Move ⟨.request index (.load path), waiting, session⟩ (waiting.hear (.error fault) after)
  | loadBegun {session after : Session} {index : Nat} {path : String} {waiting : Waiting .request}
      {engine : Script.Engine} (ready : Bridge.start index session = (.ok (), after))
      (present : (after.bridge index).engine = some engine)
      (idle : (after.bridge index).busy = false) :
      Move ⟨.request index (.load path), waiting, session⟩
        ⟨.script index (loading path engine (after.occupied index)).1, waiting, after.occupied index⟩
  | callKept {session : Session} {index : Nat} {function : String} {words : List Word}
      {waiting : Waiting .request} {fault : Fault}
      (kept : Bridge.enter index session = (.error fault, session)) :
      Move ⟨.request index (.call function words), waiting, session⟩
        (waiting.hear (.error fault) session)
  | callBegun {session : Session} {index : Nat} {function : String} {words : List Word}
      {waiting : Waiting .request} {engine : Script.Engine}
      (present : (session.bridge index).engine = some engine)
      (idle : (session.bridge index).busy = false) :
      Move ⟨.request index (.call function words), waiting, session⟩
        ⟨.script index (calling index function words engine (session.occupied index)).1, waiting,
          (calling index function words engine (session.occupied index)).2⟩
  | scriptEnded {session : Session} {index : Nat} {result : Except Fault Status}
      {engine : Script.Engine} {waiting : Waiting .request} :
      Move ⟨.script index (.done (result, engine)), waiting, session⟩
        (waiting.hear result (session.released index engine))
  | commandUnread {session : Session} {index : Nat} {engine : Script.Engine} {words : List String}
      {next : Except Fault Status → Script.Engine → Talk} {waiting : Waiting .request}
      {reply : Except Fault Status}
      (read : Bridge.commandOfTexts ((session.stored index engine).bridge index).shape words =
        .error reply) :
      Move ⟨.script index (.ask engine (.call words) next), waiting, session⟩
        ⟨.script index (next reply ((session.stored index engine).engine index)), waiting,
          session.stored index engine⟩
  | commandAsked {session : Session} {index : Nat} {engine : Script.Engine} {words : List String}
      {next : Except Fault Status → Script.Engine → Talk} {waiting : Waiting .request}
      {command : Command}
      (read : Bridge.commandOfTexts ((session.stored index engine).bridge index).shape words =
        .ok command) :
      Move ⟨.script index (.ask engine (.call words) next), waiting, session⟩
        ⟨.command command, .script index next waiting, session.stored index engine⟩
  | answered {session after : Session} {index : Nat} {engine last : Script.Engine}
      {request : HostRequest} {next : request.Reply → Script.Engine → Talk}
      {waiting : Waiting .request} {reply : request.Reply}
      (direct : ∀ words, request ≠ .call words)
      (replied : Bridge.answer noCommands index engine request session = ((reply, last), after)) :
      Move ⟨.script index (.ask engine request next), waiting, session⟩
        ⟨.script index (next reply last), waiting, after⟩
  | lineEnded {session : Session} {status : Status} {number : Nat} {rest : List String}
      {outer : Waiting .command} :
      Move ⟨.answer status, .lines number rest outer, session⟩ ⟨.lines number rest, outer, session⟩
  | left {session : Session} {status : Status} {outer : Waiting .words} :
      Move ⟨.answer status, .function outer, session⟩
        (outer.hear status { session with shell := session.shell.leaveFunction })
  | replied {session : Session} {status : Status} {index : Nat}
      {next : Except Fault Status → Script.Engine → Talk} {outer : Waiting .request} :
      Move ⟨.answer status, .script index next outer, session⟩
        ⟨.script index (next (.ok status) (session.engine index)), outer, session⟩
  | finished {session : Session} {status : Status} {inverted : Bool} {outer : Waiting .command} :
      Move ⟨.answer status, .command inverted outer, session⟩
        (outer.await (Execution.finishCommand inverted status) session)
  | reported {session : Session} {result : Except Fault Status} {index : Nat}
      {outer : Waiting .words} :
      Move ⟨.answer result, .bridge index outer, session⟩
        (outer.await (Bridge.report index result) session)

namespace Move

variable {session : Session}

theorem of_startLine (number : Int32) (line : String) (waiting : Waiting .command) :
    Move ⟨.line number line, waiting, session⟩ (startLine number line waiting session) := by
  unfold startLine
  split
  · exact .lineBlank ‹_›
  · exact .lineRefused ‹_›
  · exact .lineRead ‹_›

theorem of_startCommand (command : Command) (waiting : Waiting .command) :
    Move ⟨.command command, waiting, session⟩ (startCommand command waiting session) := by
  unfold startCommand
  split
  · exact .refused ‹_›
  · exact .accepted ‹_›

theorem of_startFields {words : List Word} {fields : List String} (line : Int32)
    (invoking : session.shell.Invokes words fields) (waiting : Waiting .words) :
    Move ⟨.words line words, waiting, session⟩ (startFields line fields waiting session) := by
  cases fields with
  | nil => exact .emptied invoking
  | cons name arguments =>
      simp only [startFields]
      split
      · unfold startFunction
        split
        · exact .tooDeep invoking ‹_› ‹_›
        · exact .entered invoking ‹_› (Nat.lt_of_not_le ‹_›)
      · split
        · exact .bridgeAsked invoking ‹_›
        · exact .recorded invoking ‹_›
        · split
          · exact .internal invoking ‹_›
          · exact .program invoking

theorem of_startWords (line : Int32) (words : List Word) (waiting : Waiting .words) :
    Move ⟨.words line words, waiting, session⟩ (startWords line words waiting session) := by
  unfold startWords
  split
  · exact .assigned ‹_›
  · exact of_startFields line ⟨‹_›, rfl⟩ waiting

theorem of_startBridge (index : Nat) (words : List Word) (waiting : Waiting .words) :
    Move ⟨.bridge index words, waiting, session⟩ (startBridge index words waiting session) := by
  unfold startBridge
  split
  · exact .malformed ‹_›
  · exact .requested ‹_›

theorem of_startRequest (index : Nat) (request : BridgeRequest) (waiting : Waiting .request) :
    Move ⟨.request index request, waiting, session⟩
      (startRequest index request waiting session) := by
  cases request with
  | start => exact .started
  | load path =>
      simp only [startRequest]
      split
      · exact .unstarted ‹_›
      · rename_i after ready
        rcases Bridge.enter_cases index after with ⟨fault, kept⟩ | ⟨engine, present, idle, taken⟩
        · simp only [startScript, kept]
          exact .loadKept ready kept
        · simp only [startScript, taken]
          exact .loadBegun ready present idle
  | call function words =>
      rcases Bridge.enter_cases index session with ⟨fault, kept⟩ | ⟨engine, present, idle, taken⟩
      · simp only [startRequest, startScript, kept]
        exact .callKept kept
      · simp only [startRequest, startScript, taken]
        exact .callBegun present idle

theorem of_resume (index : Nat) (talk : Talk) (waiting : Waiting .request) :
    Move ⟨.script index talk, waiting, session⟩ (resume index talk waiting session) := by
  cases talk with
  | done ended => exact .scriptEnded
  | ask engine request next =>
      cases request with
      | call words =>
          simp only [resume]
          split
          · exact .commandUnread ‹_›
          · exact .commandAsked ‹_›
      | _ => exact .answered nofun rfl

theorem of_deliver {stage : Stage} {waiting : Waiting stage} {answer : stage.Answer} {next : Config}
    (delivered : deliver answer waiting session = some next) :
    Move ⟨.answer answer, waiting, session⟩ next := by
  cases waiting with
  | nobody =>
      simp only [deliver] at delivered
      contradiction
  | lines number rest outer =>
      cases delivered
      exact .lineEnded
  | function outer =>
      cases delivered
      exact .left
  | script index next outer =>
      cases delivered
      exact .replied
  | command inverted outer =>
      cases delivered
      exact .finished
  | bridge index outer =>
      cases delivered
      exact .reported

theorem of_step {config next : Config} (stepped : step config = some next) : Move config next := by
  obtain ⟨control, waiting, session⟩ := config
  cases control with
  | lines number lines =>
      cases lines with
      | nil =>
          cases stepped
          exact .textEnded
      | cons line rest =>
          cases stepped
          exact .lineTaken
  | line number line =>
      cases stepped
      exact of_startLine number line waiting
  | command command =>
      cases stepped
      exact of_startCommand command waiting
  | words line words =>
      cases stepped
      exact of_startWords line words waiting
  | bridge index words =>
      cases stepped
      exact of_startBridge index words waiting
  | request index request =>
      cases stepped
      exact of_startRequest index request waiting
  | script index talk =>
      cases stepped
      exact of_resume index talk waiting
  | answer answer => exact of_deliver stepped

end Move

end Machine

end ScriptedShell
