import ScriptedShell.Proofs.StartFailure
import ScriptedShell.Proofs.Timeline
import ScriptedShell.Script.Standard

/-!
What is fixed in a session once and for all: the shape of the host's records, and for each bridge that has
been started its engine and the shape of the records that it makes.
-/

namespace ScriptedShell

open Machine

structure Bridge.Continues (before after : Bridge) : Prop where
  settings : after.settings = before.settings
  initialized : before.isInitialized = true → after.isInitialized = true
  shape : before.shape.isSome → after.shape = before.shape

structure Session.Continues (before after : Session) : Prop where
  settings : after.shell.settings = before.shell.settings
  shape : after.shell.shape = before.shell.shape
  count : before.bridges.length ≤ after.bridges.length
  bridges : ∀ index < before.bridges.length, (before.bridge index).Continues (after.bridge index)

theorem Bridge.Continues.refl (bridge : Bridge) : bridge.Continues bridge :=
  ⟨rfl, id, fun _ => rfl⟩

theorem Bridge.Continues.trans {first second third : Bridge} (left : first.Continues second)
    (right : second.Continues third) : first.Continues third where
  settings := right.settings.trans left.settings
  initialized := fun started => right.initialized (left.initialized started)
  shape := by
    intro known
    have same := left.shape known
    rw [right.shape (same ▸ known), same]

namespace Session.Continues

theorem refl (session : Session) : session.Continues session :=
  ⟨rfl, rfl, Nat.le_refl _, fun _ _ => .refl _⟩

theorem trans {first second third : Session} (left : first.Continues second)
    (right : second.Continues third) : first.Continues third where
  settings := right.settings.trans left.settings
  shape := right.shape.trans left.shape
  count := Nat.le_trans left.count right.count
  bridges := fun index bound =>
    (left.bridges index bound).trans (right.bridges index (Nat.lt_of_lt_of_le bound left.count))

theorem of_undisturbed {session : Session} {shell : Shell}
    (undisturbed : session.shell.Undisturbed shell) : session.Continues { session with shell } :=
  { refl session with
    settings := undisturbed.settings
    shape := undisturbed.shape }

theorem changeBridge (session : Session) (index : Nat) {f : Bridge → Bridge}
    (continues : (session.bridge index).Continues (f (session.bridge index))) :
    session.Continues (session.changeBridge index f) :=
  { refl session with
    count := Nat.le_of_eq (session.changeBridge_length index f).symm
    bridges := by
      intro other bound
      by_cases same : other = index
      · subst same
        rw [bridge_changeBridge_self f bound]
        exact continues
      · rw [bridge_changeBridge_of_ne session f same]
        exact .refl _ }

theorem attach (session : Session) (settings : Settings) :
    session.Continues (session.attach settings) where
  settings := rfl
  shape := rfl
  count := by
    rw [Session.attach, List.length_append]
    exact Nat.le_add_right _ _
  bridges := by
    intro index bound
    have same : (session.attach settings).bridge index = session.bridge index := by
      simp [Session.bridge, Session.attach, List.getD, List.getElem?_append, bound]
    rw [same]
    exact .refl _

end Session.Continues

theorem Change.continues (change : Change) (session : Session) :
    session.Continues (change.apply session) := by
  cases change with
  | attach settings => exact .attach session settings
  | _ => exact ⟨rfl, rfl, Nat.le_refl _, fun _ _ => .refl _⟩

def Bridge.Shaped (bridge : Bridge) : Prop :=
  bridge.isInitialized = true → bridge.shape.isSome

/-- A bridge that looks at the shell's own version knows no shape but the shell's. -/
def Bridge.Follows (host : Option RecordShape) (bridge : Bridge) : Prop :=
  bridge.settings.versionVariable = Shell.versionVariable →
    ∀ shape, bridge.shape = some shape → host = some shape

namespace Session

variable {P : Bridge → Prop}

theorem forall_changeBridge {session : Session} {index : Nat} {f : Bridge → Bridge}
    (all : ∀ other, P (session.bridge other)) (changed : P (f (session.bridge index))) (other : Nat) :
    P ((session.changeBridge index f).bridge other) := by
  by_cases same : other = index
  · subst same
    by_cases bound : other < session.bridges.length
    · rw [bridge_changeBridge_self f bound]
      exact changed
    · have absent : (session.changeBridge other f).bridge other = session.bridge other := by
        simp [Session.bridge, Session.changeBridge, List.getD, bound]
      rw [absent]
      exact all other
  · rw [bridge_changeBridge_of_ne session f same]
    exact all other

theorem forall_attach {session : Session} {settings : Settings}
    (all : ∀ other, P (session.bridge other)) (fresh : P { settings }) (other : Nat) :
    P ((session.attach settings).bridge other) := by
  have old := all other
  simp only [Session.bridge, Session.attach, List.getD, List.getElem?_append] at old ⊢
  split
  · exact old
  · rename_i outside
    rw [List.getElem?_eq_none (Nat.le_of_not_lt outside)] at old
    cases other - session.bridges.length with
    | zero => exact fresh
    | succ rest => exact old

end Session

theorem Change.forall_bridge {P : Bridge → Prop} (change : Change) {session : Session}
    (all : ∀ index, P (session.bridge index)) (fresh : ∀ settings, P { settings }) :
    ∀ index, P ((change.apply session).bridge index) := by
  cases change with
  | attach settings => exact Session.forall_attach all (fresh settings)
  | _ => exact all

theorem Bridge.detectShape_ok {session : Session} {bridge : Bridge} {shape : RecordShape}
    (detected : detectShape session bridge = .ok shape) :
    ∃ version found, session.shell.bindings.value? bridge.settings.versionVariable = some version ∧
      RecordShape.ofVersion? version = some found ∧ shape = bridge.shape.getD found := by
  unfold detectShape at detected
  split at detected
  · dsimp only at detected
    split at detected
    · contradiction
    · rename_i version stored
      split at detected
      · rename_i found read
        cases detected
        exact ⟨version, found, stored, read, rfl⟩
      · contradiction
  · contradiction

theorem Bridge.detectShape_follows {session : Session} {bridge : Bridge} {shape : RecordShape}
    (detected : detectShape session bridge = .ok shape)
    (host : session.shell.shape = RecordShape.ofVersion? session.shell.settings.version)
    (version : session.shell.bindings.value? Shell.versionVariable =
      some session.shell.settings.version)
    (follows : bridge.Follows session.shell.shape) :
    Follows session.shell.shape { bridge with shape := some shape } := by
  rintro own _ ⟨⟩
  have watched : bridge.settings.versionVariable = Shell.versionVariable := own
  obtain ⟨stored, found, looked, read, rfl⟩ := detectShape_ok detected
  rw [watched, version] at looked
  cases looked
  cases known : bridge.shape with
  | some earlier => exact follows watched earlier known
  | none => exact host.trans read

namespace Effect

variable {before after : Session} {updates : List Update}

theorem continues (effect : Effect before updates after) : before.Continues after := by
  induction effect with
  | assign session assignments =>
      exact .of_undisturbed (Shell.assignAll_undisturbed assignments session.shell)
  | register registered => exact .of_undisturbed (Shell.registerFunction_undisturbed registered)
  | detect detected =>
      exact .changeBridge _ _ ⟨rfl, id, Bridge.detectShape_eq_of_isSome detected⟩
  | use ready settings shape initialized =>
      exact .changeBridge _ _ ⟨settings _, initialized _, fun _ => shape _⟩
  | trans _ _ earlier later => exact earlier.trans later
  | _ => exact ⟨rfl, rfl, Nat.le_refl _, fun _ _ => .refl _⟩

theorem shaped (effect : Effect before updates after)
    (shaped : ∀ index, (before.bridge index).Shaped) : ∀ index, (after.bridge index).Shaped := by
  induction effect with
  | detect detected => exact Session.forall_changeBridge shaped fun _ => rfl
  | @use session index f ready settings shape initialized =>
      refine Session.forall_changeBridge shaped fun _ => ?_
      rw [shape]
      rcases ready with started | known
      · exact shaped index started
      · exact known
  | trans _ _ earlier later => exact later (earlier shaped)
  | _ => exact shaped

theorem follows (effect : Effect before updates after)
    (host : before.shell.shape = RecordShape.ofVersion? before.shell.settings.version)
    (version : before.shell.bindings.value? Shell.versionVariable =
      some before.shell.settings.version)
    (unwritten : latest? Shell.versionVariable updates = none)
    (follows : ∀ index, (before.bridge index).Follows before.shell.shape) :
    ∀ index, (after.bridge index).Follows after.shell.shape := by
  have kept := effect.continues.shape
  induction effect with
  | detect detected =>
      exact Session.forall_changeBridge follows
        (Bridge.detectShape_follows detected host version (follows _))
  | @use session index f ready settings shape initialized =>
      refine Session.forall_changeBridge follows ?_
      intro own known
      rw [settings] at own
      rw [shape]
      exact follows index own known
  | trans earlier later ihEarlier ihLater =>
      rw [latest?_append, Option.or_eq_none_iff] at unwritten
      have continues := earlier.continues
      refine ihLater ?_ ?_ unwritten.1 (ihEarlier host version unwritten.2 follows continues.shape)
        later.continues.shape
      · rw [continues.shape, continues.settings, host]
      · rw [earlier.bindings, Variables.value?_update, unwritten.2, continues.settings, version]
        rfl
  | _ =>
      intro index
      rw [kept]
      exact follows index

end Effect

namespace Moment

variable [Script.Language] {first middle last : Moment} {updates more : List Update}

theorem Follows.continues (follows : Follows first updates last) (sound : first.Sound) :
    first.session.Continues last.session := by
  cases follows with
  | change change session => exact change.continues session
  | environment environment session =>
      rw [CommandLine.importEnvironment_eq]
      exact .of_undisturbed ⟨rfl, rfl, rfl, rfl, rfl⟩
  | begin operation session => exact .refl session
  | step stepped =>
      obtain ⟨limits, balanced⟩ := sound
      exact (effect_step balanced stepped).continues
  | finish ended => exact .refl _

theorem Timeline.continues (timeline : Timeline first updates last) (sound : first.Sound) :
    first.session.Continues last.session := by
  induction timeline with
  | refl => exact .refl _
  | tail earlier follows ih => exact ih.trans (follows.continues (earlier.sound sound))

theorem Follows.shaped (follows : Follows first updates last) (sound : first.Sound)
    (shaped : ∀ index, (first.session.bridge index).Shaped) :
    ∀ index, (last.session.bridge index).Shaped := by
  cases follows with
  | change change session => exact change.forall_bridge shaped fun _ started => nomatch started
  | environment environment session => exact shaped
  | begin operation session => exact shaped
  | step stepped =>
      obtain ⟨limits, balanced⟩ := sound
      exact (effect_step balanced stepped).shaped shaped
  | finish ended => exact shaped

namespace Occurs

variable {settings : HostSettings} {files : FileTree}

theorem shaped (occurs : Occurs settings files updates last) :
    ∀ index, (last.session.bridge index).Shaped := by
  induction occurs with
  | refl => exact fun _ started => nomatch started
  | tail earlier follows ih => exact follows.shaped (Occurs.sound earlier) ih

theorem host (occurs : Occurs settings files updates last) :
    last.session.shell.settings = settings ∧
      last.session.shell.shape = RecordShape.ofVersion? settings.version := by
  have continues := Timeline.continues occurs (Session.Reachable.new settings files).resting
  exact ⟨continues.settings, continues.shape⟩

theorem version (occurs : Occurs settings files updates last)
    (unwritten : latest? Shell.versionVariable updates = none) :
    last.session.shell.bindings.value? Shell.versionVariable = some settings.version := by
  rw [occurs.bindings, Variables.value?_update, latest?_cons, unwritten]
  rfl

theorem follows (occurs : Occurs settings files updates last)
    (unwritten : latest? Shell.versionVariable updates = none) :
    ∀ index, (last.session.bridge index).Follows last.session.shell.shape := by
  induction occurs with
  | refl => exact fun _ _ _ known => nomatch known
  | @tail updates more middle last earlier follows ih =>
      rw [latest?_append, Option.or_eq_none_iff] at unwritten
      have known := ih unwritten.2
      have sound := Occurs.sound earlier
      have kept := (follows.continues sound).shape
      cases follows with
      | step stepped =>
          obtain ⟨limits, balanced⟩ := sound
          obtain ⟨same, host⟩ := Occurs.host earlier
          have version := Occurs.version earlier unwritten.2
          rw [← same] at host version
          exact (effect_step balanced stepped).follows host version unwritten.1 known
      | change change session =>
          rw [kept]
          exact change.forall_bridge known fun _ _ _ fresh => nomatch fresh
      | environment environment session =>
          rw [kept]
          exact known
      | begin operation session => exact known
      | finish ended => exact known

end Occurs

end Moment

theorem Command.make_shape {shape : RecordShape} {words : List Word} {command : Command}
    (made : Command.make (some shape) words = .ok command) : command.shape = shape := by
  cases made
  exact Command.shape_ofWords shape words

theorem Shell.functions_registerFunction {shell next : Shell} {shape : RecordShape}
    {builtinName name : String}
    (registered : shell.registerFunction (some shape) builtinName name = .ok next) :
    ∃ body : Command, body.shape = shape ∧ next.functions = shell.functions.insert name body := by
  rw [registerFunction] at registered
  split at registered
  · contradiction
  · split at registered
    · rename_i body made
      cases registered
      exact ⟨body, Command.make_shape made, rfl⟩
    · contradiction

theorem Bridge.commandOfTexts_shape {shape : RecordShape} {words : List String}
    {command : Command} (read : commandOfTexts (some shape) words = .ok command) :
    command.shape = shape := by
  rw [commandOfTexts] at read
  split at read
  · contradiction
  · cases read
    exact Command.shape_ofWords shape _

theorem Session.shape_stored (session : Session) (index : Nat) (engine : Script.Engine) :
    ((session.stored index engine).bridge index).shape = (session.bridge index).shape :=
  session.view_changeBridge index index Bridge.shape fun _ => rfl

namespace Machine

variable {session : Session} {index : Nat} {shape : RecordShape}

theorem functions_resume_register (known : (session.bridge index).shape = some shape)
    (engine : Script.Engine) (name : String) (talk : Except Fault Unit → Script.Engine → Talk)
    (waiting : Waiting .request) :
    let next := resume index (.ask engine (.register name) talk) waiting session
    next.session.shell.functions = session.shell.functions ∨
      ∃ body : Command, body.shape = shape ∧
        next.session.shell.functions = session.shell.functions.insert name body := by
  have stored := (session.shape_stored index engine).trans known
  intro next
  have asked : next.session = (Bridge.reply noCommands ((session.stored index engine).bridge index)
      (.register name)).after (session.stored index engine) := rfl
  rw [asked]
  simp only [Bridge.reply, Run.after_bind, Run.result_get, Run.after_get, stored]
  split
  · rename_i registered
    exact .inr (Shell.functions_registerFunction registered)
  · exact .inl rfl

theorem shape_resume_call (known : (session.bridge index).shape = some shape)
    {engine : Script.Engine} {words : List String}
    {talk : Except Fault Status → Script.Engine → Talk} {waiting : Waiting .request}
    {command : Command} {outer : Waiting .command} {after : Session}
    (resumed : resume index (.ask engine (.call words) talk) waiting session =
      ⟨.command command, outer, after⟩) : command.shape = shape := by
  have stored := (session.shape_stored index engine).trans known
  simp only [resume, stored] at resumed
  split at resumed
  · cases resumed
  · rename_i read
    cases resumed
    exact Bridge.commandOfTexts_shape read

end Machine

/-- A bridge is started and makes records of a shape. To start it again changes nothing, and what its
scripts register and run has that shape. -/
structure Moment.Makes [Script.Language] (index : Nat) (shape : RecordShape) (moment : Moment) : Prop where
  started : (moment.session.bridge index).isInitialized = true
  known : (moment.session.bridge index).shape = some shape
  startAgain : Bridge.start index moment.session = (.ok (), moment.session)
  registered : ∀ {engine : Script.Engine} {name : String}
    {talk : Except Fault Unit → Script.Engine → Talk} {waiting : Waiting .request}
    {session : Session} {next : Config},
    moment = .running ⟨.script index (.ask engine (.register name) talk), waiting, session⟩ →
    step ⟨.script index (.ask engine (.register name) talk), waiting, session⟩ = some next →
    next.session.shell.functions = session.shell.functions ∨
      ∃ body : Command, body.shape = shape ∧
        next.session.shell.functions = session.shell.functions.insert name body
  called : ∀ {engine : Script.Engine} {words : List String}
    {talk : Except Fault Status → Script.Engine → Talk} {waiting : Waiting .request}
    {session : Session} {command : Command} {outer : Waiting .command} {after : Session},
    moment = .running ⟨.script index (.ask engine (.call words) talk), waiting, session⟩ →
    step ⟨.script index (.ask engine (.call words) talk), waiting, session⟩ =
      some ⟨.command command, outer, after⟩ →
    command.shape = shape

theorem Moment.makes [Script.Language] {index : Nat} {shape : RecordShape} {moment : Moment}
    (started : (moment.session.bridge index).isInitialized = true)
    (known : (moment.session.bridge index).shape = some shape) : moment.Makes index shape where
  started := started
  known := known
  startAgain := Bridge.start_initialized started
  registered := by
    rintro engine name talk waiting session next rfl stepped
    cases stepped
    exact functions_resume_register known engine name talk waiting
  called := by
    rintro engine words talk waiting session command outer after rfl stepped
    exact shape_resume_call known (Option.some.inj stepped)

theorem Bridge.start_fresh [Script.Language] {session : Session} {index : Nat} {bridge : Bridge}
    {shape : RecordShape} {engine : Script.Engine} (found : session.bridges[index]? = some bridge)
    (fresh : bridge.isInitialized = false) (detected : detectShape session bridge = .ok shape)
    (made : Script.Engine.withShell bridge.settings.scriptNamespace = .ok engine) :
    ∃ after : Session, start index session = (.ok (), after) ∧ after.shell = session.shell ∧
      after.bridge index = { bridge with shape := some shape, engine := some engine } := by
  have bound : index < session.bridges.length := (List.getElem?_eq_some_iff.mp found).1
  refine ⟨_, start_made found fresh detected made, rfl, ?_⟩
  rw [Session.bridge_changeBridge_self _ bound, Session.bridge_eq_of_getElem? found]

theorem Moment.Timeline.start [Script.Language] {session after : Session} {index : Nat}
    (started : Bridge.start index session = (.ok (), after)) :
    Moment.Timeline (.rest session) [] (.rest after) := by
  have answered : startRequest index .start .nobody session =
      (Waiting.nobody : Waiting .request).hear (.ok .success) after := by
    simp only [startRequest, started]
    rfl
  have begun := Moment.Timeline.single (.begin (.request index .start) session)
  exact (begun.tail (.step (congrArg some answered))).tail (.finish rfl)

/-- Once a bridge is started it stays so, with the shape that it has then, whatever happens after. If it
looks at the shell's own version, and nothing has written to that before, the shape is the shell's. -/
theorem shape_set_once [Script.Language] {settings : HostSettings} {files : FileTree} {updates : List Update}
    {first : Moment} {index : Nat} (occurs : Moment.Occurs settings files updates first)
    (started : (first.session.bridge index).isInitialized = true) :
    ∃ shape : RecordShape,
      (∀ (more : List Update) (later : Moment), Moment.Timeline first more later →
        later.Makes index shape) ∧
      ((first.session.bridge index).settings.versionVariable = Shell.versionVariable →
        latest? Shell.versionVariable updates = none →
        ∀ (more : List Update) (later : Moment), Moment.Timeline first more later →
          later.session.shell.shape = some shape) := by
  obtain ⟨shape, known⟩ := Option.isSome_iff_exists.mp (occurs.shaped index started)
  obtain ⟨engine, present⟩ := Option.isSome_iff_exists.mp started
  have bound := Session.bound_of_engine present
  refine ⟨shape, ?_, ?_⟩
  · intro more later timeline
    have continues := (timeline.continues occurs.sound).bridges index bound
    have same := continues.shape (known ▸ rfl)
    exact Moment.makes (continues.initialized started) (same.trans known)
  · intro own unwritten more later timeline
    have host := occurs.follows unwritten index own shape known
    exact (timeline.continues occurs.sound).shape.trans host

theorem shape_set_once_overwritten :
    let attached := (Change.attach {}).apply (Session.new {} .bare)
    ∃ started : Session, Bridge.start 0 attached = (.ok (), started) ∧
      Moment.Occurs {} .bare [] (.rest started) ∧ (started.bridge 0).isInitialized = true ∧
      (started.bridge 0).settings.versionVariable = Shell.versionVariable ∧
      latest? Shell.versionVariable [] = none ∧
      let overwritten := (Change.assign Shell.versionVariable "2.05").apply started
      overwritten.shell.bindings.value? Shell.versionVariable = some "2.05" ∧
        Moment.Makes 0 .version3 (.rest overwritten) ∧
        overwritten.shell.shape = some .version3 := by
  intro attached
  obtain ⟨engine, made, _⟩ := Script.Engine.withShell_bash
  have fresh : attached.bridges[0]? = some { settings := {} } := rfl
  obtain ⟨started, ran, _, bridge⟩ := Bridge.start_fresh fresh rfl rfl made
  have attaching := Moment.Timeline.single (.change (.attach {}) (Session.new {} .bare))
  have occurs : Moment.Occurs {} .bare [] (.rest started) := attaching.trans (.start ran)
  have initialized : (started.bridge 0).isInitialized = true := by
    rw [bridge]
    rfl
  have own : (started.bridge 0).settings.versionVariable = Shell.versionVariable := by
    rw [bridge]
    rfl
  have found : (started.bridge 0).shape = some .version3 := by
    rw [bridge]
    rfl
  have later := Moment.Timeline.single (.change (.assign Shell.versionVariable "2.05") started)
  have stored := Variables.value?_assign started.shell.bindings Shell.versionVariable "2.05"
    Shell.versionVariable
  obtain ⟨shape, makes, host⟩ := shape_set_once occurs initialized
  have known : shape = .version3 :=
    Option.some.inj ((makes [] _ .refl).known.symm.trans found)
  rw [known] at makes host
  exact ⟨started, ran, occurs, initialized, own, rfl, stored, makes _ _ later,
    host own rfl _ _ later⟩

end ScriptedShell
