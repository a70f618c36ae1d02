import ScriptedShell.Proofs.LastStatus
import ScriptedShell.Proofs.Move
import ScriptedShell.Script.Standard

/-!
Records of a shape that is not the shell's. However such a record comes to the shell, all that it leaves
behind is a complaint and a failure: its words are never looked at.
-/

namespace ScriptedShell

open Machine

def Session.refusing (session : Session) (status : Status) (complaint : String) : Session :=
  { session with
    shell := session.shell.finish status
    events := session.events.push (.diagnostic complaint) }

namespace Execution

def foreignComplaint (host : Option RecordShape) (shape : RecordShape) : String :=
  Shell.name ++ ": refusing " ++ shape.name ++ " command record on a " ++ shapeName host ++ " host"
    ++ "\n"

variable {session : Session} {command : Command}

theorem refusal?_foreign {shell : Shell} (foreign : shell.shape ≠ some command.shape) :
    ∃ complaint, refusal? shell command = some complaint ∧
      complaint ++ "\n" = foreignComplaint shell.shape command.shape :=
  ⟨_, if_pos foreign, rfl⟩

theorem shape_of_accepted {shell : Shell} (accepted : refusal? shell command = none) :
    shell.shape = some command.shape := by
  by_contra foreign
  obtain ⟨complaint, refused, _⟩ := refusal?_foreign foreign
  rw [accepted] at refused
  contradiction

theorem executeWith_foreign [Script.Language] (nested : Nested)
    (foreign : session.shell.shape ≠ some command.shape) :
    executeWith nested command session =
      (.failure, session.refusing .failure (foreignComplaint session.shell.shape command.shape)) := by
  obtain ⟨complaint, refused, same⟩ := refusal?_foreign foreign
  rw [executeWith, Run.get_bind, refused, ← same]
  rfl

theorem callFunction_foreign [Script.Language] {bound : Nat} {body : Command} (name : String)
    (arguments : List String) (room : session.shell.settings.maxCallDepth.toNat ≤ bound)
    (foreign : session.shell.shape ≠ some body.shape) :
    ∃ (last : Status) (complaint : String),
      callFunction (execute bound) name body arguments session =
        (.failure, session.refusing last complaint) := by
  rw [callFunction, Run.get_bind]
  split
  · exact ⟨session.shell.lastStatus, _, rfl⟩
  · rename_i below
    obtain ⟨rest, rfl⟩ := Nat.exists_eq_add_one_of_ne_zero (n := bound) (by omega)
    let inside : Session := { session with shell := session.shell.enterFunction arguments }
    have refused : execute (rest + 1) body inside =
        (.failure, inside.refusing .failure (foreignComplaint inside.shell.shape body.shape)) :=
      executeWith_foreign (execute rest) foreign
    refine ⟨.failure, foreignComplaint inside.shell.shape body.shape, ?_⟩
    exact (congrArg (fun ended : Status × Session =>
      (ended.1, { ended.2 with shell := ended.2.shell.leaveFunction })) refused).trans rfl

end Execution

namespace Session

variable {session : Session} {command : Command}

theorem executeCommand_foreign [Script.Language] (foreign : session.shell.shape ≠ some command.shape) :
    executeCommand command session =
      (.failure,
        session.refusing .failure (Execution.foreignComplaint session.shell.shape command.shape)) := by
  obtain ⟨bound, _, same⟩ := session.executeCommand_eq_execute command
  exact same.trans (Execution.executeWith_foreign (execute bound) foreign)

theorem executeCommand_foreignBody [Script.Language] {name : String} {arguments : List String}
    {body : Command} (shaped : session.shell.shape = some command.shape)
    (direct : command.redirections = []) (invoking : Shell.assignments? command.words = none)
    (expanded : session.shell.expandWords command.words = name :: arguments)
    (found : session.shell.functions.find? name = some body)
    (foreign : session.shell.shape ≠ some body.shape) :
    ∃ complaint : String,
      let status := if command.inverted then .success else .failure
      executeCommand command session = (status, session.refusing status complaint) := by
  obtain ⟨bound, room, same⟩ := session.executeCommand_eq_execute command
  obtain ⟨last, complaint, called⟩ := Execution.callFunction_foreign name arguments room foreign
  have accepted := Execution.refusal?_eq_none shaped direct
  have ran : Execution.runWords (execute bound) command.line command.words session =
      (.failure, session.refusing last complaint) := by
    rw [Execution.runWords_eq_runFields _ _ invoking, expanded, Execution.runFields, Run.get_bind,
      found]
    exact called
  refine ⟨complaint, same.trans ?_⟩
  rw [execute, Execution.executeWith, Run.get_bind, accepted]
  simp only
  rw [Run.bind_of_eq session ran]
  cases command.inverted with
  | false => rfl
  | true => rfl

theorem readLine_shape {shell : Shell} {number : Int32} {line : String}
    (read : readLine shell number line = .command command) : shell.shape = some command.shape := by
  unfold readLine at read
  split at read
  · contradiction
  · contradiction
  · cases shaped : shell.shape with
    | none =>
        rw [shaped] at read
        contradiction
    | some shape =>
        rw [shaped] at read
        cases read
        simp only [apply_ite Command.shape, Command.shape_invert, Command.shape_atLine,
          Command.shape_ofWords, ite_self]

theorem runNumbered_shapeless [Script.Language] (shapeless : session.shell.shape = none) (number : Int32)
    {line : String} (visible : isBlankLine line = false) :
    ∃ complaint : String,
      runNumbered number line session = (.failure, session.refusing .failure complaint) := by
  rw [runNumbered, Run.get_bind]
  cases content : readLine session.shell number line with
  | nothing =>
      unfold readLine at content
      split at content
      · rename_i blank
        rw [(lexLine_eq_nil_iff line).mp blank] at visible
        contradiction
      · contradiction
      · rw [shapeless] at content
        contradiction
  | refused complaint => exact ⟨_, rfl⟩
  | command command =>
      have shaped := readLine_shape content
      rw [shapeless] at shaped
      contradiction

end Session

namespace Bridge

variable {session : Session} {index : Nat} {shape : RecordShape}

theorem answer_call_foreign [Script.Language] (started : (session.bridge index).isInitialized = true)
    (known : (session.bridge index).shape = some shape) (foreign : session.shell.shape ≠ some shape)
    (engine : Script.Engine) {words : List String} (given : words ≠ []) :
    answer Session.nested index engine (.call words) session =
      ((.ok .failure, engine), (session.stored index engine).refusing .failure
        (Execution.foreignComplaint session.shell.shape shape)) := by
  let stored := session.stored index engine
  let after := stored.refusing .failure (Execution.foreignComplaint session.shell.shape shape)
  have read : commandOfTexts (stored.bridge index).shape words =
      .ok (.ofWords shape (words.map Word.ofText)) := by
    rw [session.shape_stored index engine, known]
    exact commandOfTexts_ok shape given
  let command : Command := .ofWords shape (words.map Word.ofText)
  have own : command.shape = shape := Command.shape_ofWords shape _
  have refused : Session.nested command stored = (.failure, after) := by
    have refused := Session.executeCommand_foreign (own.symm ▸ foreign : stored.shell.shape ≠ _)
    rwa [own] at refused
  obtain ⟨running, held⟩ := Option.isSome_iff_exists.mp started
  have kept : after.engine index = engine :=
    Session.engine_stored (Session.bound_of_engine held) engine
  have answered : answer Session.nested index engine (.call words) session =
      ((.ok .failure, after.engine index), after) := by
    rw [answer_call_ok read, Run.after, Run.result, refused]
  rw [answered, kept]

end Bridge

namespace Machine

variable {stage : Stage}

/-- Words are carried out only as those of a record of the shell's own shape, which waits for their end. -/
def Config.CarriesOut : Config → Prop
  | ⟨.words line words, waiting, session⟩ =>
    ∃ (command : Command) (outer : Waiting .command),
      session.shell.shape = some command.shape ∧ line = command.line ∧ words = command.words ∧
        waiting = .command command.inverted outer
  | _ => True

theorem carriesOut_step [Script.Language] {config next : Config} (stepped : step config = some next) :
    next.CarriesOut := by
  cases Move.of_step stepped with
  | accepted accepted => exact ⟨_, _, Execution.shape_of_accepted accepted, rfl, rfl, rfl⟩
  | _ => trivial

theorem step_foreign [Script.Language] {command : Command} {waiting : Waiting .command} {session : Session}
    (foreign : session.shell.shape ≠ some command.shape) :
    step ⟨.command command, waiting, session⟩ =
      some (waiting.hear .failure
        (session.refusing .failure (Execution.foreignComplaint session.shell.shape command.shape))) := by
  obtain ⟨complaint, refused, same⟩ := Execution.refusal?_foreign foreign
  simp only [step, startCommand, refused, ← same]
  rfl

end Machine

namespace Script

theorem ShellCall.call_foreign [Language] (caller : Caller) {session between : Session} {index : Nat}
    {shape : RecordShape} (started : (session.bridge index).isInitialized = true)
    (known : (session.bridge index).shape = some shape) (foreign : session.shell.shape ≠ some shape)
    (present : session.shellPresent = true) {engine middle : Engine}
    {arguments : List Value} {words : List String} (given : words ≠ [])
    (converted : (Action.mapItems (Convert.hostText caller) arguments).Yields
      (Bridge.answer Session.nested index) engine session words middle between) :
    (run caller .call arguments).Yields (Bridge.answer Session.nested index) engine session
      (.ofFloat Status.failure.toFloat) middle
      ((between.stored index middle).refusing .failure
        (Execution.foreignComplaint session.shell.shape shape)) := by
  obtain ⟨own, held⟩ := Option.isSome_iff_exists.mp started
  have kept := Bridge.conduct_keeps Session.nested_keeps (Session.bound_of_engine held)
    (Action.mapItems (Convert.hostText caller) arguments engine)
  rw [Run.after, converted] at kept
  have bound : index < between.bridges.length := kept.count ▸ Session.bound_of_engine held
  have presence := Bridge.answer_presence Session.nested (kept.shellPresent.trans present) bound middle
  let stored := between.stored index middle
  have equipped : (stored.bridge index).isInitialized = true :=
    congrArg Bridge.isInitialized (Session.bridge_changeBridge_self _ bound)
  have shaped : (stored.bridge index).shape = some shape :=
    (between.shape_stored index middle).trans (((kept.bridges index).shape (known ▸ rfl)).trans known)
  have host : stored.shell.shape = session.shell.shape := kept.shell.shape
  have answered := Bridge.answer_call_foreign equipped shaped (host ▸ foreign) middle given
  rw [Session.stored_stored, host] at answered
  exact ShellCall.call_yields caller converted presence answered

end Script

namespace Moment

/-- How a shell of a shape, or of none, treats the records that come to it at a moment. -/
structure RefusesForeign [Script.Language] (host : Option RecordShape) (moment : Moment) : Prop where
  shape : moment.session.shell.shape = host
  carriesOut : ∀ {config : Config}, moment = .running config → config.CarriesOut
  /-- A record that would have to be run next, be it of a function or a script or from outside. -/
  refused : ∀ {command : Command} {waiting : Waiting .command} {session : Session},
    moment = .running ⟨.command command, waiting, session⟩ → host ≠ some command.shape →
    step ⟨.command command, waiting, session⟩ =
      some (waiting.hear .failure
        (session.refusing .failure (Execution.foreignComplaint host command.shape)))
  command : ∀ {command : Command}, host ≠ some command.shape →
    Session.executeCommand command moment.session =
      (.failure, moment.session.refusing .failure
        (Execution.foreignComplaint host command.shape))
  line : ∀ {number : Int32} {line : String} {command : Command},
    Session.readLine moment.session.shell number line = .command command →
    host = some command.shape
  /-- What scripts register has the shape of their bridge, and is called in vain if it is not the shell's. -/
  registered : ∀ {index : Nat} {shape : RecordShape} {engine : Script.Engine} {name : String}
    {talk : Except Fault Unit → Script.Engine → Talk} {waiting : Waiting .request}
    {session : Session} {next : Config},
    moment = .running ⟨.script index (.ask engine (.register name) talk), waiting, session⟩ →
    (session.bridge index).shape = some shape →
    step ⟨.script index (.ask engine (.register name) talk), waiting, session⟩ = some next →
    next.session.shell.functions = session.shell.functions ∨
      ∃ body : Command, body.shape = shape ∧
        next.session.shell.functions = session.shell.functions.insert name body
  invoked : ∀ {command : Command} {name : String} {arguments : List String} {body : Command},
    host = some command.shape → command.redirections = [] →
    Shell.assignments? command.words = none →
    moment.session.shell.expandWords command.words = name :: arguments →
    moment.session.shell.functions.find? name = some body → host ≠ some body.shape →
    ∃ complaint : String,
      let status := if command.inverted then .success else .failure
      Session.executeCommand command moment.session =
        (status, moment.session.refusing status complaint)
  /-- A script whose bridge makes other records than the shell's runs commands in vain. -/
  call : ∀ {index : Nat} {shape : RecordShape},
    (moment.session.bridge index).isInitialized = true →
    (moment.session.bridge index).shape = some shape → host ≠ some shape →
    ∀ (engine : Script.Engine) {words : List String}, words ≠ [] →
    Bridge.answer Session.nested index engine (.call words) moment.session =
      ((.ok .failure, engine), (moment.session.stored index engine).refusing .failure
        (Execution.foreignComplaint host shape))
  number : ∀ {index : Nat} {shape : RecordShape},
    (moment.session.bridge index).isInitialized = true →
    (moment.session.bridge index).shape = some shape → host ≠ some shape →
    moment.session.shellPresent = true →
    ∀ (caller : Script.Caller) {engine middle : Script.Engine} {between : Session}
      {arguments : List Script.Value} {words : List String}, words ≠ [] →
    (Script.Action.mapItems (Script.Convert.hostText caller) arguments).Yields
      (Bridge.answer Session.nested index) engine moment.session words middle between →
    (Script.ShellCall.run caller .call arguments).Yields (Bridge.answer Session.nested index) engine
      moment.session (.ofFloat Status.failure.toFloat) middle
      ((between.stored index middle).refusing .failure
        (Execution.foreignComplaint host shape))
  shapeless : host = none → ∀ (number : Int32) {line : String}, isBlankLine line = false →
    ∃ complaint : String, Session.runNumbered number line moment.session =
      (.failure, moment.session.refusing .failure complaint)

theorem Follows.carriesOut [Script.Language] {first last : Moment} {updates : List Update}
    (follows : Follows first updates last) {config : Config} (running : last = .running config) :
    config.CarriesOut := by
  cases follows with
  | change change session => contradiction
  | environment environment session => contradiction
  | begin operation session =>
      cases running
      cases operation <;> trivial
  | step stepped =>
      cases running
      exact carriesOut_step stepped
  | finish ended => contradiction

theorem Occurs.carriesOut [Script.Language] {settings : HostSettings} {files : FileTree}
    {updates : List Update} {config : Config}
    (occurs : Occurs settings files updates (.running config)) : config.CarriesOut := by
  cases occurs with
  | tail earlier follows => exact follows.carriesOut rfl

end Moment

/-- From when it is made, a shell runs no record of another shape than the one that its version stands for,
whatever happens to the variable of the version, and wherever the record comes from. -/
theorem foreign_records_refused [Script.Language] {settings : HostSettings} {files : FileTree}
    {updates : List Update} {moment : Moment} (occurs : Moment.Occurs settings files updates moment) :
    moment.RefusesForeign (RecordShape.ofVersion? settings.version) := by
  have shape := occurs.host.2
  rw [← shape]
  refine
    { shape := rfl
      carriesOut := ?carriesOut
      refused := ?refused
      command := Session.executeCommand_foreign
      line := Session.readLine_shape
      registered := ?registered
      invoked := Session.executeCommand_foreignBody
      call := fun started known foreign engine _ => Bridge.answer_call_foreign started known foreign engine
      number := fun started known foreign present caller _ _ _ _ _ =>
        Script.ShellCall.call_foreign caller started known foreign present
      shapeless := Session.runNumbered_shapeless }
  case carriesOut =>
    rintro config rfl
    exact occurs.carriesOut
  case refused =>
    rintro command waiting session rfl foreign
    exact step_foreign foreign
  case registered =>
    rintro index shape engine name talk waiting session next rfl known stepped
    cases stepped
    exact functions_resume_register known engine name talk waiting

theorem foreign_records_refused_mismatched :
    let body : Command := (.ofWords .version2 [.literal "bridge"])
    let invoking : Command := (Command.ofWords .version3 [.literal "greet"]).invert
    let complaint := "mini-shell: refusing version-2-shape command record on a version-3-shape host\n"
    ∃ (updates : List Update) (session : Session),
      Moment.Occurs {} .bare updates (.rest session) ∧
        (∀ engine : Script.Engine, Bridge.answer Session.nested 0 engine (.call ["true"]) session =
          ((.ok .failure, engine), (session.stored 0 engine).refusing .failure complaint)) ∧
        session.shell.functions.find? "greet" = some body ∧
        ∃ complaint : String, Session.executeCommand invoking session =
          (.success, session.refusing .success complaint) := by
  intro body invoking complaint
  let attached := (Change.attach {}).apply (Session.new {} .bare)
  let overwritten := (Change.assign Shell.versionVariable "2.05").apply attached
  obtain ⟨engine, made, _⟩ := Script.Engine.withShell_bash
  have fresh : overwritten.bridges[0]? = some { settings := {} } := rfl
  obtain ⟨started, ran, shell, bridge⟩ := Bridge.start_fresh fresh rfl rfl made
  let session := (Change.define "greet" body).apply started
  have occurs : Moment.Occurs {} .bare _ (.rest session) :=
    ((Moment.Timeline.changes [.attach {}, .assign Shell.versionVariable "2.05"] _).trans
      (.start ran)).trans (.single (.change (.define "greet" body) started))
  have initialized : (session.bridge 0).isInitialized = true := congrArg Bridge.isInitialized bridge
  have shape : (session.bridge 0).shape = some .version2 := congrArg Bridge.shape bridge
  have own : session.shell = overwritten.shell.defineFunction "greet" body :=
    congrArg (Shell.defineFunction · "greet" body) shell
  have rule := foreign_records_refused occurs
  have found : session.shell.functions.find? "greet" = some body := by
    rw [own]
    rfl
  have expanded : session.shell.expandWords invoking.words = ["greet"] := by
    rw [own]
    rfl
  refine ⟨_, session, occurs, fun engine => ?_, found, ?_⟩
  · exact rule.call initialized shape (by decide) engine (List.cons_ne_nil _ _)
  · exact rule.invoked (by decide) rfl (by decide) expanded found (by decide)

end ScriptedShell
