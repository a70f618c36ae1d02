import ScriptedShell.Proofs.Forwarding
import ScriptedShell.Proofs.PlainLine
import ScriptedShell.Proofs.Refusal
import ScriptedShell.Script.Standard

/-!
Through a script and back. A script function that hands its arguments to a command gets them from the line
as they are; the command gets what the shell makes of them as words.
-/

namespace ScriptedShell

open Quoting

theorem guarded_lexed (text : String) : (guarded text).Lexed where
  dollars := by simp [guarded]
  exclusive := nofun
  assignment := rfl
  protection := fun _ => rfl
  bare := nofun
  start := nofun

theorem toList_arguments (texts : List String) :
    (Quoting.arguments texts).toList = texts.flatMap fun text => ' ' :: (single text).toList := by
  induction texts with
  | nil => rfl
  | cons first rest ih => simp [Quoting.arguments, ih]

theorem lexLine_called {builtin function : String} (command : isPlainText builtin = true)
    (named : isPlainText function = true) (texts : List String) :
    lexLine (builtin ++ " call " ++ function ++ Quoting.arguments texts) =
      .ok (.ofText builtin :: .ofText "call" :: .ofText function :: texts.map guarded) := by
  let names := [builtin, "call", function]
  have plain : ∀ name ∈ names, isPlainText name = true := by
    simp [names, command, named]
    decide
  have lexed : ∀ word ∈ names.map Word.ofText ++ texts.map guarded, word.Lexed := by
    intro word member
    obtain member | member := List.mem_append.mp member
    · obtain ⟨name, listed, rfl⟩ := List.mem_map.mp member
      exact lexed_of_isPlainText (plain name listed)
    · obtain ⟨text, _, rfl⟩ := List.mem_map.mp member
      exact guarded_lexed text
  have written : renderWords (names.map Word.ofText ++ texts.map guarded) =
      builtin ++ " call " ++ function ++ Quoting.arguments texts := by
    have guardedTexts : (texts.map guarded).flatMap (fun next => ' ' :: next.render.toList) =
        (Quoting.arguments texts).toList := by
      rw [toList_arguments, List.flatMap_map]
      rfl
    rw [← String.toList_inj]
    simp only [names, List.map_cons, List.map_nil, List.cons_append, List.nil_append, renderWords_cons,
      List.flatMap_cons, guardedTexts, render_of_isPlainText command, render_of_isPlainText named,
      String.toList_append]
    simp [Word.render, Word.ofText]
    rfl
  have read := lexLine_renderWords lexed
  rwa [written] at read

def Event.recording? : Event → Option (String × List Word)
  | .recorded name words => some (name, words)
  | _ => none

namespace Session

def recordings (session : Session) : List (String × List Word) :=
  session.events.toList.filterMap Event.recording?

theorem recordings_push (session : Session) (event : Event) :
    recordings { session with events := session.events.push event } =
      session.recordings ++ event.recording?.toList := by
  cases noted : event.recording? with
  | none => simp [recordings, noted]
  | some recording => simp [recordings, noted]

end Session

namespace Script

def HostRequest.startsCommand : HostRequest → Bool
  | .call _ => true
  | _ => false

def HostRequest.onlyReads : HostRequest → Bool
  | .register _ | .setVariable _ _ | .call _ => false
  | _ => true

theorem HostRequest.startsCommand_of_onlyReads {request : HostRequest}
    (reads : request.onlyReads = true) : request.startsCommand = false := by
  cases request with
  | call words => contradiction
  | _ => rfl

namespace Dialogue

variable {α β : Type}

/-- The script asks for no command, whatever it is told. -/
def StartsNothing : Dialogue α → Prop
  | .done _ => True
  | .ask engine request next =>
    request.startsCommand = false ∧ ∀ reply, (next reply engine).StartsNothing

/-- The script asks for the command of these words, and for no other. Before that it leaves the shell
alone. -/
inductive Passes (words : List String) (status : Status) : Dialogue α → Prop where
  | presence {engine : Engine} {next : Except Fault Unit → Engine → Dialogue α}
      (onward : (next (.ok ()) engine).Passes words status) :
      Passes words status (.ask engine .presence next)
  | before {engine : Engine} {request : HostRequest} {next : request.Reply → Engine → Dialogue α}
      (reads : request.onlyReads = true) (onward : ∀ reply, (next reply engine).Passes words status) :
      Passes words status (.ask engine request next)
  | call {engine : Engine} {next : Except Fault Status → Engine → Dialogue α}
      (onward : (next (.ok status) engine).StartsNothing) :
      Passes words status (.ask engine (.call words) next)

end Dialogue

theorem Convert.hostText_returns (call : Caller) (text : String) (engine : Engine) :
    (hostText call (.ofString text)).Returns engine text engine := by
  have units : (Convert.text call (.ofString text)).Returns engine (Utf16.encode text) engine := rfl
  refine .bind units ?_
  rw [Utf16.decode_encode]
  exact .pure text

theorem Convert.hostTexts_return (call : Caller) (texts : List String) (engine : Engine) :
    (Action.mapItems (hostText call) (texts.map Value.ofString)).Returns engine texts engine := by
  induction texts with
  | nil => exact .pure []
  | cons first rest ih => exact .bind (hostText_returns call first engine) (.bind ih (.pure _))

theorem ShellCall.call_passes (call : Caller) (words : List String) (status : Status)
    (engine : Engine) :
    (run call .call (words.map Value.ofString) engine).Passes words status := by
  have enough : ¬ (words.map Value.ofString).length < ShellFunction.required .call := by
    rw [List.length_map]
    exact Nat.not_lt_of_le (Nat.zero_le _)
  have converted := Convert.hostTexts_return call words engine
  rw [run, if_neg enough]
  change Dialogue.Passes words status (Dialogue.bind (Action.mapItems _ _ engine) _)
  rw [converted]
  exact .presence (.call trivial)

end Script

namespace Bridge

open Script

section

variable (nested : Nested) {session : Session} {index : Nat} {request : HostRequest}

theorem reply_quiet (bridge : Bridge) (other : request.startsCommand = false) (session : Session) :
    let after := (reply nested bridge request).after session
    after.bridges = session.bridges ∧ after.recordings = session.recordings := by
  cases request with
  | call words => contradiction
  | presence => exact ⟨rfl, rfl⟩
  | getVariable name => exact ⟨rfl, rfl⟩
  | setVariable name value => exact ⟨rfl, rfl⟩
  | environment => exact ⟨rfl, rfl⟩
  | print line => exact ⟨rfl, (session.recordings_push _).trans (List.append_nil _)⟩
  | log level line => exact ⟨rfl, (session.recordings_push _).trans (List.append_nil _)⟩
  | register name =>
      simp only [Run.after, reply, Run.get_bind]
      cases session.shell.registerFunction bridge.shape bridge.settings.builtinName name with
      | ok shell => exact ⟨rfl, rfl⟩
      | error fault => exact ⟨rfl, rfl⟩

theorem reply_reads (bridge : Bridge) (reads : request.onlyReads = true) (session : Session) :
    ∃ events, (reply nested bridge request).after session = { session with events } := by
  cases request with
  | call words => contradiction
  | register name => contradiction
  | setVariable name value => contradiction
  | _ => exact ⟨_, rfl⟩

theorem answer_quiet (other : request.startsCommand = false) (attached : index < session.bridges.length)
    (engine : Engine) :
    let stored := session.stored index engine
    let reply := reply nested (stored.bridge index) request
    answer nested index engine request session =
      ((reply.result stored, engine), reply.after stored) := by
  intro stored reply
  have bridges : (reply.after stored).bridges = stored.bridges :=
    (reply_quiet nested (stored.bridge index) other stored).1
  have kept : (reply.after stored).engine index = engine := by
    rw [Session.engine, Session.bridge, bridges]
    exact session.engine_stored attached engine
  calc answer nested index engine request session
      = ((reply.result stored, (reply.after stored).engine index), reply.after stored) := rfl
    _ = _ := by rw [kept]

theorem recordings_conduct_startsNothing {α : Type} {dialogue : Dialogue α}
    (silent : dialogue.StartsNothing) (attached : index < session.bridges.length) :
    ((dialogue.conduct (answer nested index)).after session).recordings = session.recordings := by
  induction dialogue generalizing session with
  | done result => rfl
  | ask engine request next ih =>
      obtain ⟨other, onward⟩ := silent
      let stored := session.stored index engine
      let run := reply nested (stored.bridge index) request
      have answered : answer nested index engine request session =
          ((run.result stored, engine), run.after stored) := answer_quiet nested other attached engine
      obtain ⟨bridges, recordings⟩ := reply_quiet nested (stored.bridge index) other stored
      have still : index < (run.after stored).bridges.length := by
        rw [bridges]
        exact session.stored_bound attached engine
      rw [Dialogue.conduct, Run.after, Run.bind_of_eq session answered]
      exact (ih _ _ (onward _) still).trans recordings

end

end Bridge

structure Session.Listens (session : Session) (index : Nat) (shape : RecordShape) (label : String)
    (status : Status) : Prop where
  present : session.shellPresent = true
  attached : index < session.bridges.length
  known : (session.bridge index).shape = some shape
  shaped : session.shell.shape = some shape
  recorder : session.shell.Recorder label status
  identifier : isIdentifier label = true

def Shell.recording (shell : Shell) (label : String) (texts : List String) : String × List Word :=
  (label, (shell.expandWords (texts.map Word.ofText)).map Word.literal)

section

variable {session : Session} {index : Nat} {label : String} {status : Status} {shape : RecordShape}

namespace Session

theorem Listens.changeBridge (listens : session.Listens index shape label status) {f : Bridge → Bridge}
    (same : ∀ bridge, (f bridge).shape = bridge.shape) :
    (session.changeBridge index f).Listens index shape label status where
  present := listens.present
  attached := (session.changeBridge_length index f).symm ▸ listens.attached
  known := (session.view_changeBridge index index Bridge.shape same).trans listens.known
  shaped := listens.shaped
  recorder := listens.recorder
  identifier := listens.identifier

theorem Listens.events (listens : session.Listens index shape label status) (events : Array Event) :
    { session with events }.Listens index shape label status :=
  ⟨listens.present, listens.attached, listens.known, listens.shaped, listens.recorder,
    listens.identifier⟩

theorem recordings_noted (session : Session) (label : String) (status : Status)
    (texts : List String) :
    (session.noted label status texts).recordings =
      session.recordings ++ [(label, texts.map Word.literal)] :=
  session.recordings_push (.recorded label (texts.map Word.literal))

end Session

theorem execute_recorder [Script.Language] (listens : session.Listens index shape label status) (bound : Nat)
    (texts : List String) :
    execute (bound + 1) (.ofWords shape ((label :: texts).map Word.ofText)) session =
      (status, session.noted label status (session.shell.expandWords (texts.map Word.ofText))) := by
  have plain := Word.ofText_of_isIdentifier listens.identifier
  have command : Shell.assignments? ((label :: texts).map Word.ofText) = none := by
    refine Shell.assignments?_eq_none List.mem_cons_self ?_
    rw [plain]
    rfl
  have fields : session.shell.expandWords ((label :: texts).map Word.ofText) =
      label :: session.shell.expandWords (texts.map Word.ofText) := by
    rw [List.map_cons, plain, Shell.expandWords_plain]
  have ran : Execution.runWords (execute bound) 0 ((label :: texts).map Word.ofText) session =
      Execution.record label status
        ((session.shell.expandWords (texts.map Word.ofText)).map Word.literal) session := by
    rw [Execution.runWords_eq_runFields _ 0 command, fields]
    exact Execution.runFields_recorder listens.recorder.unshadowed listens.recorder.enabled _ 0 _
  rw [execute_eq_runWords listens.shaped, Run.bind_of_eq session ran]
  rfl

namespace Bridge

open Script

theorem answer_recorder [Language] (listens : session.Listens index shape label status) (bound : Nat)
    (texts : List String) (engine : Engine) :
    let given := session.shell.expandWords (texts.map Word.ofText)
    answer (execute (bound + 1)) index engine (.call (label :: texts)) session =
      ((.ok status, engine), (session.stored index engine).noted label status given) := by
  intro given
  let stored := session.stored index engine
  have still : stored.Listens index shape label status := listens.changeBridge fun _ => rfl
  have read : commandOfTexts (stored.bridge index).shape (label :: texts) =
      .ok (.ofWords shape ((label :: texts).map Word.ofText)) := by
    rw [still.known]
    exact commandOfTexts_ok shape (List.cons_ne_nil _ _)
  have ran : execute (bound + 1) (.ofWords shape ((label :: texts).map Word.ofText)) stored =
      (status, stored.noted label status given) := execute_recorder still bound texts
  have kept : (stored.noted label status given).engine index = engine :=
    session.engine_stored listens.attached engine
  rw [answer_call_ok read, Run.result, Run.after, ran]
  exact congrArg (fun last => ((Except.ok status, last), _)) kept

theorem recordings_conduct_passes [Language] {α : Type} {dialogue : Dialogue α} {texts : List String}
    (passes : dialogue.Passes (label :: texts) status)
    (listens : session.Listens index shape label status) (bound : Nat) :
    ((dialogue.conduct (answer (execute (bound + 1)) index)).after session).recordings =
      session.recordings ++ [session.shell.recording label texts] := by
  induction passes generalizing session with
  | @presence engine next onward ih =>
      have answered := answer_presence (execute (bound + 1)) listens.present listens.attached engine
      rw [Dialogue.conduct, Run.after, Run.bind_of_eq session answered]
      exact ih (listens.changeBridge fun _ => rfl)
  | @before engine request next reads onward ih =>
      let stored := session.stored index engine
      let run := reply (execute (bound + 1)) (stored.bridge index) request
      have other := HostRequest.startsCommand_of_onlyReads reads
      have answered : answer (execute (bound + 1)) index engine request session =
          ((run.result stored, engine), run.after stored) := answer_quiet _ other listens.attached engine
      have quiet : (run.after stored).recordings = session.recordings := (reply_quiet _ _ other stored).2
      obtain ⟨events, after⟩ : ∃ events, run.after stored = { stored with events } :=
        reply_reads _ _ reads stored
      have still : stored.Listens index shape label status := listens.changeBridge fun _ => rfl
      rw [Dialogue.conduct, Run.after, Run.bind_of_eq session answered, ← quiet, after]
      exact ih (run.result stored) (still.events events)
  | @call engine next onward =>
      have answered := answer_recorder listens bound texts engine
      have still : index < ((session.stored index engine).noted label status
          (session.shell.expandWords (texts.map Word.ofText))).bridges.length :=
        session.stored_bound listens.attached engine
      rw [Dialogue.conduct, Run.after, Run.bind_of_eq session answered]
      exact (recordings_conduct_startsNothing _ onward still).trans
        (Session.recordings_noted _ label status _)

end Bridge

end

/-- A bridge that is started, and a line that calls a function of its script, by names that stand for
themselves. -/
structure Session.Calls (session : Session) (index : Nat) (function : String) : Prop where
  present : session.shellPresent = true
  started : (session.bridge index).isInitialized = true
  bound : session.shell.extensions.find? (session.bridge index).settings.builtinName =
    some (.bridge index)
  unshadowed : session.shell.functions.find? (session.bridge index).settings.builtinName = none
  command : isPlainText (session.bridge index).settings.builtinName = true
  commandLiteral : Template.isLiteral (session.bridge index).settings.builtinName = true
  upright : (session.bridge index).settings.builtinName ≠ "!"
  named : isPlainText function = true
  namedLiteral : Template.isLiteral function = true

namespace Shell

theorem expandWords_literal (shell : Shell) {text : String} (literal : Template.isLiteral text = true)
    (rest : List Word) : shell.expandWords (.ofText text :: rest) = text :: shell.expandWords rest := by
  rw [expandWords_cons, shell.expandWord_of_isLiteral literal]
  rfl

theorem expandWords_literals (shell : Shell) {texts : List String}
    (literal : ∀ text ∈ texts, Template.isLiteral text = true) :
    shell.expandWords (texts.map Word.ofText) = texts := by
  induction texts with
  | nil => rfl
  | cons first rest ih =>
      obtain ⟨begins, onward⟩ := List.forall_mem_cons.mp literal
      rw [List.map_cons, shell.expandWords_literal begins, ih onward]

end Shell

section

variable {session : Session} {index : Nat} {function label : String} {status : Status}
  {shape : RecordShape}

theorem Session.executeCommand_eq_execute_of_bridge [Script.Language]
    (attached : index < session.bridges.length) (command : Command) :
    ∃ bound, executeCommand command session = execute (bound + 2) command session := by
  let bound := session.shell.settings.maxCallDepth.toNat + (session.bridges.length - 1)
  have enough : session.nestingBound = bound + 2 := by
    simp only [nestingBound, bound]
    omega
  refine ⟨bound, ?_⟩
  rw [executeCommand, nested, Run.get_bind, enough]

theorem Execution.runFields_bridge [Script.Language] {builtin : String}
    (unshadowed : session.shell.functions.find? builtin = none)
    (bound : session.shell.extensions.find? builtin = some (.bridge index)) (nested : Nested)
    (line : Int32) (texts : List String) :
    runFields nested line (builtin :: texts) session =
      Bridge.runWords nested index (texts.map Word.literal) session := by
  rw [runFields, Run.get_bind]
  simp only [unshadowed, bound]
  rfl

namespace Bridge

theorem recordings_report (index : Nat) (result : Except Fault Status) (session : Session) :
    ((report index result).after session).recordings = session.recordings := by
  cases result with
  | ok status => rfl
  | error fault => exact (session.recordings_push _).trans (List.append_nil _)

theorem recordings_runWords_call [Script.Language] {engine : Script.Engine} (named : function.isEmpty = false)
    (present : (session.bridge index).engine = some engine) (idle : (session.bridge index).busy = false)
    (nested : Nested) (texts : List String) :
    let given := scriptArguments (texts.map Word.literal)
    let inside := (Run.emit (.scriptCalled index function given)).after (session.occupied index)
    ((runWords nested index (("call" :: function :: texts).map Word.literal)).after session).recordings =
      (((Script.callGlobal function given engine).conduct (answer nested index)).after
        inside).recordings := by
  intro given inside
  have read : BridgeRequest.ofWords (("call" :: function :: texts).map Word.literal) =
      .ok (.call function (texts.map Word.literal)) := by
    simp [BridgeRequest.ofWords, Word.literal, named]
  rw [runWords, read]
  refine (recordings_report index _ _).trans ?_
  change Session.recordings ((call nested index function (texts.map Word.literal)).after session) = _
  rw [call, Run.after, Run.bind_of_eq session (enter_idle present idle)]
  rfl

theorem recordings_runWords_passes [Script.Language] {texts : List String} {engine : Script.Engine}
    (named : function.isEmpty = false) (given : ∀ text ∈ texts, text ≠ "")
    (passes : (Script.callGlobal function texts engine).Passes (label :: texts) status)
    (present : (session.bridge index).engine = some engine) (idle : (session.bridge index).busy = false)
    (listens : session.Listens index shape label status) (bound : Nat) :
    ((runWords (execute (bound + 1)) index (("call" :: function :: texts).map Word.literal)).after
        session).recordings = session.recordings ++ [session.shell.recording label texts] := by
  have arguments : scriptArguments (texts.map Word.literal) = texts := by
    rw [scriptArguments_literal, List.filter_eq_self]
    intro text member
    simpa using given text member
  let inside := (Run.emit (.scriptCalled index function texts)).after (session.occupied index)
  have entered : inside.recordings = session.recordings :=
    (Session.recordings_push _ _).trans (List.append_nil _)
  have occupied : (session.occupied index).Listens index shape label status :=
    listens.changeBridge fun _ => rfl
  have still : inside.Listens index shape label status := occupied.events _
  have called := recordings_runWords_call named present idle (execute (bound + 1)) texts
  rw [arguments] at called
  calc ((runWords (execute (bound + 1)) index (("call" :: function :: texts).map Word.literal)).after
        session).recordings
      = (((Script.callGlobal function texts engine).conduct (answer (execute (bound + 1)) index)).after
          inside).recordings := called
    _ = inside.recordings ++ [session.shell.recording label texts] :=
        recordings_conduct_passes passes still bound
    _ = session.recordings ++ [session.shell.recording label texts] := by rw [entered]

end Bridge

theorem Session.Calls.runLine [Script.Language] (calls : session.Calls index function)
    (shaped : session.shell.shape = some shape) (texts : List String) :
    let builtin := (session.bridge index).settings.builtinName
    ∃ bound, Session.runLine (builtin ++ " call " ++ function ++ Quoting.arguments texts) session =
      (Bridge.runWords (execute (bound + 1)) index (("call" :: function :: texts).map Word.literal)
        >>= Execution.finishCommand false) session := by
  intro builtin
  let words := .ofText builtin :: .ofText "call" :: .ofText function :: texts.map guarded
  have attached := bound_of_engine (engine_of_isInitialized calls.started)
  have lexed : lexLine (builtin ++ " call " ++ function ++ Quoting.arguments texts) = .ok words :=
    lexLine_called calls.command calls.named texts
  have upright : isInversion (.ofText builtin) = false := by
    rw [isInversion_ofText calls.command, beq_eq_false_iff_ne]
    exact calls.upright
  have command : Shell.assignments? words = none :=
    Shell.assignments?_eq_none (List.mem_cons_of_mem _ List.mem_cons_self) (by decide)
  have expanded : session.shell.expandWords words = builtin :: "call" :: function :: texts := by
    rw [Shell.expandWords_literal _ calls.commandLiteral, Shell.expandWords_literal _ (by decide),
      Shell.expandWords_literal _ calls.namedLiteral, Shell.expandWords_guarded]
  obtain ⟨bound, same⟩ := session.executeCommand_eq_execute_of_bridge attached (.ofWords shape words)
  have looked : Execution.runWords (execute (bound + 1)) 0 words session =
      Bridge.runWords (execute (bound + 1)) index (("call" :: function :: texts).map Word.literal)
        session := by
    rw [Execution.runWords_eq_runFields _ 0 command, expanded]
    exact Execution.runFields_bridge calls.unshadowed calls.bound _ 0 _
  refine ⟨bound, ?_⟩
  rw [runLine_eq_executeCommand lexed upright shaped, same, execute_eq_runWords shaped]
  exact congrArg (fun ran => Execution.finishCommand false ran.1 ran.2) looked

theorem recordings_of_call [Script.Language] (resting : session.Resting)
    (calls : session.Calls index function) (known : (session.bridge index).shape = some shape)
    (shaped : session.shell.shape = some shape)
    (recorder : session.shell.Recorder label status) (identifier : isIdentifier label = true)
    {texts : List String} (given : ∀ text ∈ texts, text ≠ "")
    (passes : (Script.callGlobal function texts (session.engine index)).Passes (label :: texts) status) :
    let line := (session.bridge index).settings.builtinName ++ " call " ++ function ++
      Quoting.arguments texts
    ((Session.runLine line).after session).recordings =
      session.recordings ++ [session.shell.recording label texts] := by
  intro line
  have present := Session.engine_of_isInitialized calls.started
  have listens : session.Listens index shape label status :=
    ⟨calls.present, Session.bound_of_engine present, known, shaped, recorder, identifier⟩
  obtain ⟨bound, ran⟩ := calls.runLine shaped texts
  rw [Run.after, ran]
  exact Bridge.recordings_runWords_passes (isEmpty_of_isPlainText calls.named) given passes present
    (resting.idle index) listens bound

/-- The texts come through a script as they went in, and on the way out the shell makes words of them, as
of the words of any command. So what holds no reference reaches the recorder as it is, once, and what
variables the shell has does not matter. -/
theorem passed_texts_recorded [Script.Language] (resting : session.Resting)
    (calls : session.Calls index function) (known : (session.bridge index).shape = some shape)
    (shaped : session.shell.shape = some shape)
    (recorder : session.shell.Recorder label status) (identifier : isIdentifier label = true)
    {texts : List String} (given : ∀ text ∈ texts, text ≠ "")
    (passes : (Script.callGlobal function texts (session.engine index)).Passes (label :: texts) status) :
    let line := (session.bridge index).settings.builtinName ++ " call " ++ function ++
      Quoting.arguments texts
    let recordings := ((Session.runLine line).after session).recordings
    recordings = session.recordings ++ [session.shell.recording label texts] ∧
      ((∀ text ∈ texts, Template.isLiteral text = true) →
        recordings = session.recordings ++ [(label, texts.map Word.literal)]) ∧
      ∀ (caller : Script.Caller) (engine : Script.Engine),
        (Script.ShellCall.run caller .call ((label :: texts).map Script.Value.ofString) engine).Passes
          (label :: texts) status := by
  intro line recordings
  have recorded : recordings = session.recordings ++ [session.shell.recording label texts] :=
    recordings_of_call resting calls known shaped recorder identifier given passes
  refine ⟨recorded, fun literal => ?_, fun caller engine => ?_⟩
  · rw [recorded, Shell.recording, session.shell.expandWords_literals literal]
  · exact Script.ShellCall.call_passes caller (label :: texts) status engine

end

def passingChunk : String :=
  "function f(a, b) \x7b return bash.call('rec', a, b); \x7d"

section

open Script

def asksFor {α : Type} (words : List String) (status : Status) : Dialogue α → Bool
  | .ask engine .presence next =>
    match next (.ok ()) engine with
    | .ask engine (.call asked) next =>
      match next (.ok status) engine with
      | .done _ => asked == words
      | _ => false
    | _ => false
  | _ => false

theorem passes_of_asksFor {α : Type} {words : List String} {status : Status} {dialogue : Dialogue α}
    (asks : asksFor words status dialogue = true) : dialogue.Passes words status := by
  unfold asksFor at asks
  split at asks
  · rename_i first next
    split at asks
    · rename_i second asked onward requested
      split at asks
      · rename_i ended last
        obtain rfl := beq_iff_eq.mp asks
        refine .presence ?_
        rw [requested]
        refine .call ?_
        rw [last]
        trivial
      · contradiction
    · contradiction
  · contradiction

def plainTexts : List String :=
  ["it's", "$ \"#"]

def referringTexts : List String :=
  ["$A", "b"]

def passesBoth (engine : Engine) : Bool :=
  match evaluateChunk "a.js" passingChunk engine with
  | .done (.ok (), loaded) =>
    asksFor ("rec" :: plainTexts) 0 (callGlobal "f" plainTexts loaded) &&
      asksFor ("rec" :: referringTexts) 0 (callGlobal "f" referringTexts loaded)
  | _ => false

theorem exists_of_passesBoth {engine : Engine} (passes : passesBoth engine = true) :
    ∃ loaded : Engine, evaluateChunk "a.js" passingChunk engine = .done (.ok (), loaded) ∧
      (callGlobal "f" plainTexts loaded).Passes ("rec" :: plainTexts) 0 ∧
      (callGlobal "f" referringTexts loaded).Passes ("rec" :: referringTexts) 0 := by
  unfold passesBoth at passes
  split at passes
  · rename_i loaded ended
    rw [Bool.and_eq_true] at passes
    exact ⟨loaded, ended, passes_of_asksFor passes.1, passes_of_asksFor passes.2⟩
  · contradiction

theorem passesBoth_bash : (Engine.withShell "bash").toOption.any passesBoth = true := by
  decide +kernel

structure Passing (session : Session) : Prop where
  reached : session.Reachable
  calls : session.Calls 0 "f"
  builtin : (session.bridge 0).settings.builtinName = "bridge"
  known : (session.bridge 0).shape = some .version3
  shaped : session.shell.shape = some .version3
  recorder : session.shell.Recorder "rec" 0
  stored : session.shell.bindings.value? "A" = some "x"
  unrecorded : session.recordings = []
  plain : (callGlobal "f" plainTexts (session.engine 0)).Passes ("rec" :: plainTexts) 0
  referring : (callGlobal "f" referringTexts (session.engine 0)).Passes ("rec" :: referringTexts) 0

theorem exists_passing : ∃ session : Session, Passing session := by
  let changes : List Change := [.extend "rec" (.recorder "rec" 0), .assign "A" "x", .attach {}]
  let attached := changes.foldl (fun session change => change.apply session)
    (Session.new {} (withChunk passingChunk))
  obtain ⟨engine, made, passes⟩ := exists_of_any passesBoth_bash
  obtain ⟨filled, evaluated, plain, referring⟩ := exists_of_passesBoth passes
  have ran : Bridge.loadFile (withChunk passingChunk) "a.js" engine = .done (.ok (), filled) := by
    rw [Bridge.loadFile, withChunk_readText]
    exact evaluated
  have found : attached.bridges[0]? = some { settings := {} } := rfl
  let loaded := attached.changeBridge 0 fun bridge =>
    { bridge with shape := some .version3, engine := some filled, busy := false }
  have loading : Bridge.load Session.nested 0 "a.js" attached = (.ok (), loaded) :=
    Bridge.load_fresh found rfl rfl rfl made ran
  have performed : (Operation.request 0 (.load "a.js")).run attached = (.ok .success, loaded) :=
    Bridge.perform_load loading
  have reached : loaded.Reachable := by
    have before : attached.Reachable := (Session.Reachable.new {} _).changes changes
    have reached : Session.Reachable _ := .operation before (.request 0 (.load "a.js"))
    rwa [Run.after, performed] at reached
  have calls : loaded.Calls 0 "f" :=
    { present := rfl
      started := rfl
      bound := rfl
      unshadowed := rfl
      command := (by decide : isPlainText "bridge" = true)
      commandLiteral := (by decide : Template.isLiteral "bridge" = true)
      upright := (by decide : "bridge" ≠ "!")
      named := by decide
      namedLiteral := by decide }
  exact ⟨loaded,
    { reached, calls, plain, referring
      builtin := rfl
      known := rfl
      shaped := rfl
      recorder := ⟨rfl, rfl⟩
      stored := rfl
      unrecorded := rfl }⟩

end

theorem passed_texts_recorded_lone_dollar :
    ∃ session : Session, Passing session ∧
      ((Session.runLine "bridge call f 'it'\\''s' '$ \"#'").after session).recordings =
        [("rec", ["it's", "$ \"#"].map Word.literal)] := by
  obtain ⟨session, passing⟩ := exists_passing
  have given : ∀ text ∈ plainTexts, text ≠ "" := by decide
  have literal : ∀ text ∈ plainTexts, Template.isLiteral text = true := by decide
  have recorded := (passed_texts_recorded passing.reached.resting passing.calls passing.known
    passing.shaped passing.recorder (by decide) given passing.plain).2.1 literal
  rw [passing.builtin, passing.unrecorded] at recorded
  have line : "bridge" ++ " call " ++ "f" ++ Quoting.arguments plainTexts =
      "bridge call f 'it'\\''s' '$ \"#'" := by decide
  rw [line] at recorded
  exact ⟨session, passing, recorded⟩

theorem passed_reference_expanded :
    ∃ session : Session, Passing session ∧
      ((Session.runLine "bridge call f '$A' 'b'").after session).recordings =
        [("rec", ["x", "b"].map Word.literal)] ∧
      ((Session.runLine "bridge call f '$A' 'b'").after session).recordings ≠
        [("rec", ["$A", "b"].map Word.literal)] := by
  obtain ⟨session, passing⟩ := exists_passing
  have given : ∀ text ∈ referringTexts, text ≠ "" := by decide
  have recorded := recordings_of_call passing.reached.resting passing.calls passing.known passing.shaped
    passing.recorder (by decide) given passing.referring
  rw [passing.builtin, passing.unrecorded] at recorded
  have line : "bridge" ++ " call " ++ "f" ++ Quoting.arguments referringTexts =
      "bridge call f '$A' 'b'" := by decide
  have reference : session.shell.expandWord (.ofText "$A") = ["x"] :=
    Refers.expandWord .bare (by decide) false passing.stored
  have filled : session.shell.recording "rec" referringTexts = ("rec", ["x", "b"].map Word.literal) := by
    rw [Shell.recording, referringTexts, List.map_cons, Shell.expandWords_cons, reference]
    rfl
  rw [line, filled] at recorded
  refine ⟨session, passing, recorded, ?_⟩
  rw [recorded]
  decide

end ScriptedShell
