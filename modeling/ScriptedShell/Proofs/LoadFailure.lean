import ScriptedShell.Proofs.Refusal
import ScriptedShell.Script.Standard

/-!
What the failure of a load tells. Nothing has been run of a chunk for which the engine only makes an error: its
text is no program, or its names cannot be declared. A chunk that throws has been run, and only the name of
what it throws can hide that.
-/

namespace ScriptedShell

namespace Script

theorem Action.Complains.raises {α : Type} {action : Action α} {engine : Engine} {error : ScriptObject}
    (complains : action.Complains engine error) (host : Host) (session : Session) :
    action.Raises host engine session (.object engine.objects.size) (engine.allocate error).2
      session := by
  rw [Raises, complains]
  rfl

theorem Program.run_complains {program : Program} {engine : Engine} {error : ScriptObject}
    (clash : program.check.Complains (engine.within .chunk) error) :
    program.run.Complains engine error :=
  .inFrame (clash.bind _)

def syntaxErrorName : String := "SyntaxError"

theorem chunkFault_eq (path : String) (report : Report) :
    chunkFault path report =
      if report.name = some syntaxErrorName then .chunkNotLoaded path report.text
      else .scriptFailed (path ++ ": " ++ report.text) := by
  simp only [chunkFault, Report.isSyntaxError, beq_iff_eq]
  rfl

section

variable [Language]

/-- No statement of a chunk is run: all that comes of it is an error. -/
inductive Rejects (source : String) (engine : Engine) : ScriptObject → Prop where
  | unread {properties : List (PropertyKey × Property)}
      (refused : Language.read source = .refused properties) :
      Rejects source engine (.syntaxError properties)
  | taken {program : Program} {error : ScriptObject} (read : Language.read source = .program program)
      (clash : program.check.Complains (engine.within .chunk) error) : Rejects source engine error

/-- An evaluation fails, and tells of what was thrown. Only objects have names. -/
def Reports (host : Host) (path source : String) (engine : Engine) (session : Session) (thrown : Value)
    (middle : Engine) (between : Session) : Prop :=
  ∃ (report : Report) (last : Engine) (after : Session),
    (Report.ofThrown thrown).Yields host middle between report last after ∧
    (evaluateChunk path source engine).conduct host session =
      ((.error (if report.name = some syntaxErrorName then .chunkNotLoaded path report.text
        else .scriptFailed (path ++ ": " ++ report.text)), last), after) ∧
    ((∀ id, thrown ≠ .object id) → report.name = none)

/-- What may have happened to a chunk that is said not to be loaded. -/
inductive Unloaded (host : Host) (source : String) (engine : Engine) (session : Session)
    (last : Engine) (after : Session) : Prop where
  /-- It was not run. The error for it was made and told of, and that is all, if telling runs nothing. -/
  | rejected {error : ScriptObject} {report : Report} (rejects : Rejects source engine error)
      (told : (Report.ofThrown (.object engine.objects.size)).Yields host (engine.allocate error).2
        session report last after)
      (named : report.name = some syntaxErrorName)
      (quiet : ∀ (plain : Report) (made : Engine),
        (Report.ofThrown (.object engine.objects.size)).Returns (engine.allocate error).2 plain made →
          last = made ∧ after = session)
  /-- It was run, and has thrown an object with the name of a syntax error. -/
  | misnamed {program : Program} {id : ObjectId} {middle : Engine} {between : Session}
      {report : Report} (read : Language.read source = .program program)
      (free : program.check.Returns (engine.within .chunk) () (engine.within .chunk))
      (raised : program.run.Raises host engine session (.object id) middle between)
      (told : (Report.ofThrown (.object id)).Yields host middle between report last after)
      (named : report.name = some syntaxErrorName)

structure TellsFailures (host : Host) (path source : String) (engine : Engine) (session : Session) :
    Prop where
  failed : ∀ message, Language.read source = .failed message →
    (evaluateChunk path source engine).conduct host session =
      ((.error (.scriptFailed (path ++ ": " ++ message)), engine), session)
  /-- Of a chunk that is not run nothing is told but the error that the engine makes for it. -/
  rejected : ∀ {error}, Rejects source engine error →
    Reports host path source engine session (.object engine.objects.size) (engine.allocate error).2
      session
  /-- What a chunk throws is told as a script's failure, but for objects with the one name. -/
  raised : ∀ {program thrown middle between}, Language.read source = .program program →
    program.run.Raises host engine session thrown middle between →
      Reports host path source engine session thrown middle between
  unloaded : ∀ {place reason last after},
    (evaluateChunk path source engine).conduct host session =
        ((.error (.chunkNotLoaded place reason), last), after) →
      Unloaded host source engine session last after

variable {host : Host} {path source : String} {engine : Engine} {session : Session}
  {program : Program}

theorem evaluateChunk_program (read : Language.read source = .program program) :
    evaluateChunk path source engine = program.run.use (chunkFault path) engine := by
  rw [evaluateChunk, read]

theorem evaluateChunk_failed {message : String} (failed : Language.read source = .failed message) :
    evaluateChunk path source engine =
      .done (.error (.scriptFailed (path ++ ": " ++ message)), engine) := by
  rw [evaluateChunk, failed]
  rfl

theorem reports_of_raises {action : Action Unit} {thrown : Value} {middle : Engine} {between : Session}
    (evaluated : evaluateChunk path source engine = action.use (chunkFault path) engine)
    (raised : action.Raises host engine session thrown middle between) :
    Reports host path source engine session thrown middle between := by
  obtain ⟨report, last, after, told, unnamed⟩ :=
    Report.ofThrown_concludes thrown host middle between
  refine ⟨report, last, after, told, ?_, unnamed⟩
  rw [evaluated, use_raises raised told, chunkFault_eq]

theorem reports_of_rejects {error : ScriptObject} (rejects : Rejects source engine error) :
    Reports host path source engine session (.object engine.objects.size) (engine.allocate error).2
      session := by
  cases rejects with
  | @unread properties refused =>
      refine reports_of_raises ?_ ((Reading.refuse_complains properties engine).raises host session)
      rw [evaluateChunk, refused]
  | taken read clash =>
      exact reports_of_raises (evaluateChunk_program read)
        ((Program.run_complains clash).raises host session)

variable {last : Engine} {after : Session} {place reason : String}

theorem Reports.named {thrown : Value} {middle : Engine} {between : Session}
    (reports : Reports host path source engine session thrown middle between)
    (unloaded : (evaluateChunk path source engine).conduct host session =
      ((.error (.chunkNotLoaded place reason), last), after)) :
    ∃ report : Report, (Report.ofThrown thrown).Yields host middle between report last after ∧
      report.name = some syntaxErrorName ∧ ∃ id, thrown = .object id := by
  obtain ⟨report, final, later, told, ended, unnamed⟩ := reports
  rw [ended, Prod.mk.injEq, Prod.mk.injEq] at unloaded
  obtain ⟨⟨same, rfl⟩, rfl⟩ := unloaded
  have named : report.name = some syntaxErrorName := by
    by_contra other
    rw [if_neg other] at same
    cases same
  refine ⟨report, told, named, ?_⟩
  cases thrown with
  | object id => exact ⟨id, rfl⟩
  | _ => exact absurd (unnamed nofun) (by rw [named]; nofun)

theorem unloaded_of_rejects {error : ScriptObject} (rejects : Rejects source engine error)
    (unloaded : (evaluateChunk path source engine).conduct host session =
      ((.error (.chunkNotLoaded place reason), last), after)) :
    Unloaded host source engine session last after := by
  obtain ⟨report, told, named, _⟩ := (reports_of_rejects rejects).named unloaded
  refine .rejected rejects told named fun plain made quiet => ?_
  cases (quiet.yields host session).symm.trans told
  exact ⟨rfl, rfl⟩

theorem unloaded_of_run (read : Language.read source = .program program)
    (free : program.check.Returns (engine.within .chunk) () (engine.within .chunk))
    (unloaded : (evaluateChunk path source engine).conduct host session =
      ((.error (.chunkNotLoaded place reason), last), after)) :
    Unloaded host source engine session last after := by
  have evaluated : evaluateChunk path source engine = program.run.use (chunkFault path) engine :=
    evaluateChunk_program read
  rcases program.run.yields_or_raises host engine session with
    ⟨value, middle, between, yields⟩ | ⟨thrown, middle, between, raised⟩
  · rw [evaluated, use_yields yields] at unloaded
    cases unloaded
  · obtain ⟨report, told, named, id, rfl⟩ := (reports_of_raises evaluated raised).named unloaded
    exact .misnamed read free raised told named

theorem unloaded_of_evaluateChunk
    (unloaded : (evaluateChunk path source engine).conduct host session =
      ((.error (.chunkNotLoaded place reason), last), after)) :
    Unloaded host source engine session last after := by
  cases read : Language.read source with
  | failed message =>
      rw [evaluateChunk_failed read] at unloaded
      cases unloaded
  | refused properties => exact unloaded_of_rejects (.unread read) unloaded
  | program program =>
      rcases program.checks (engine.within .chunk) with free | ⟨error, clash⟩
      · exact unloaded_of_run read free unloaded
      · exact unloaded_of_rejects (.taken read clash) unloaded

theorem loadFile_unloaded {files : FileTree}
    (unloaded : (Bridge.loadFile files path engine).conduct host session =
      ((.error (.chunkNotLoaded place reason), last), after)) :
    ((∃ error, files.readText path = .error error) ∧ last = engine ∧ after = session) ∨
      ∃ source : String, files.readText path = .ok source ∧
        Unloaded host source engine session last after := by
  unfold Bridge.loadFile at unloaded
  split at unloaded
  · rename_i source text
    exact .inr ⟨source, text, unloaded_of_evaluateChunk unloaded⟩
  · rename_i error unreadable
    cases unloaded
    exact .inl ⟨⟨error, unreadable⟩, rfl, rfl⟩

theorem tellsFailures (host : Host) (path source : String) (engine : Engine) (session : Session) :
    TellsFailures host path source engine session where
  failed := by
    intro message failed
    rw [evaluateChunk_failed failed]
    rfl
  rejected := reports_of_rejects
  raised := fun read raised => reports_of_raises (evaluateChunk_program read) raised
  unloaded := unloaded_of_evaluateChunk

end

end Script

open Script

namespace Bridge

variable {nested : Nested} {session started after : Session} {index : Nat} {engine : Engine}
  {path : String} {fault : Fault}

theorem start_not_ofScript [Language] (failed : start index session = (.error fault, after)) :
    fault.ofScript = false := by
  cases starts_of_eq failed with
  | missing => rfl
  | undetected found fresh undetected =>
      unfold detectShape at undetected
      split at undetected
      · dsimp only at undetected
        split at undetected
        · cases undetected
          rfl
        split at undetected
        · contradiction
        · cases undetected
          rfl
      · cases undetected
        rfl
  | unmade => rfl

theorem load_idle [Language] (ready : start index session = (.ok (), started))
    (present : (started.bridge index).engine = some engine)
    (idle : (started.bridge index).busy = false) {result : Except Fault Unit} {last : Engine}
    {between : Session}
    (conducted : (loadFile started.files path engine).conduct (answer nested index)
      (started.occupied index) = ((result, last), between)) :
    load nested index path session = (result, between.released index last) := by
  rw [load, Run.bind_of_eq session ready]
  simp only
  rw [Run.bind_of_eq started (enter_idle present idle)]
  change converse nested index (loadFile started.files path engine) (started.occupied index) = _
  rw [converse, Run.bind_of_eq _ conducted]
  rfl

/-- What a session is like whose bridge has not loaded a chunk: as after the start of the bridge if there is no
text to be read, and else as the evaluation of the text leaves it. -/
def LeavesUnloaded [Language] (nested : Nested) (index : Nat) (path : String) (session after : Session) :
    Prop :=
  ∃ started : Session, start index session = (.ok (), started) ∧
    (((∃ error, started.files.readText path = .error error) ∧ after = started) ∨
      ∃ (source : String) (engine last : Engine) (between : Session),
        started.files.readText path = .ok source ∧ (started.bridge index).engine = some engine ∧
        Unloaded (answer nested index) source engine (started.occupied index) last between ∧
        after = between.released index last)

theorem load_unloaded [Language] {place reason : String}
    (unloaded : load nested index path session = (.error (.chunkNotLoaded place reason), after)) :
    LeavesUnloaded nested index path session after := by
  cases ended : start index session with
  | mk result started =>
      cases result with
      | error fault =>
          rw [load_unstarted path ended] at unloaded
          cases unloaded
          exact absurd (start_not_ofScript ended) (by simp [Fault.ofScript])
      | ok value =>
          refine ⟨started, ended, ?_⟩
          obtain ⟨engine, present⟩ := Option.isSome_iff_exists.mp (start_started ended)
          cases busy : (started.bridge index).busy with
          | true =>
              rw [load_unentered path ended (enter_busy present busy)] at unloaded
              cases unloaded
          | false =>
              cases conducted : (loadFile started.files path engine).conduct (answer nested index)
                  (started.occupied index) with
              | mk left between =>
                  obtain ⟨result, last⟩ := left
                  rw [load_idle ended present busy conducted] at unloaded
                  cases unloaded
                  rcases loadFile_unloaded conducted with ⟨unreadable, rfl, rfl⟩ | ⟨source, text, left⟩
                  · exact .inl ⟨unreadable, Session.released_occupied present busy⟩
                  · exact .inr ⟨source, engine, last, between, text, present, left, rfl⟩

theorem load_evaluated [Language] {source : String} {result : Except Fault Unit} {last : Engine}
    {between : Session} (ready : start index session = (.ok (), started))
    (present : (started.bridge index).engine = some engine)
    (idle : (started.bridge index).busy = false)
    (text : started.files.readText path = .ok source)
    (conducted : (evaluateChunk path source engine).conduct (answer nested index)
      (started.occupied index) = ((result, last), between)) :
    load nested index path session = (result, between.released index last) := by
  refine load_idle ready present idle ?_
  rw [loadFile, text]
  exact conducted

/-- Of a chunk for which the engine makes an error nothing is run, and what a chunk throws is told as a script's
failure, but for objects with the name of a syntax error. A load ends as the evaluation does. So a chunk that
is said not to be loaded has changed nothing but for the start of its bridge and the telling of its error, or
it was run and threw such an object. -/
theorem load_failure_explained [Language] (host : Host) (nested : Nested) (index : Nat) (path source : String)
    (engine : Engine) (session : Session) :
    TellsFailures host path source engine session ∧
      (∀ {started between : Session} {last : Engine} {result : Except Fault Unit},
        start index session = (.ok (), started) → (started.bridge index).engine = some engine →
        (started.bridge index).busy = false → started.files.readText path = .ok source →
        (evaluateChunk path source engine).conduct (answer nested index) (started.occupied index) =
          ((result, last), between) →
        load nested index path session = (result, between.released index last)) ∧
      ∀ {place reason : String} {after : Session},
        load nested index path session = (.error (.chunkNotLoaded place reason), after) →
        LeavesUnloaded nested index path session after :=
  ⟨tellsFailures host path source engine session, load_evaluated, load_unloaded⟩

def throwingChunk : String :=
  "throw 'o';"

def throwsText (engine : Engine) : Reading → Bool
  | .program program =>
    match program.run engine with
    | .done (.thrown (.text _), _) => true
    | _ => false
  | _ => false

theorem exists_of_throwsText {engine : Engine} {reading : Reading}
    (throws : throwsText engine reading = true) :
    ∃ (program : Program) (units : Units) (last : Engine),
      reading = .program program ∧ program.run engine = .done (.thrown (.text units), last) := by
  unfold throwsText at throws
  split at throws
  · split at throws
    · rename_i units last ran
      exact ⟨_, units, last, rfl, ran⟩
    · contradiction
  · contradiction

theorem throwsText_throwingChunk : throwsText .new (Language.read throwingChunk) = true := by
  decide +kernel

theorem load_failure_explained_throwingChunk :
    let session := Session.new {} .bare
    ∃ (message : String) (last : Engine) (after : Session),
      (evaluateChunk "a.js" throwingChunk .new).conduct (answer Session.nested 0) session =
        ((.error (.scriptFailed message), last), after) := by
  intro session
  obtain ⟨program, units, thrower, read, ran⟩ := exists_of_throwsText throwsText_throwingChunk
  have raised : program.run.Raises (answer Session.nested 0) .new session (.text units) thrower session := by
    rw [Action.Raises, ran]
    rfl
  obtain ⟨report, last, after, _, ended, unnamed⟩ :=
    (load_failure_explained (answer Session.nested 0) Session.nested 0 "a.js" throwingChunk .new
      session).1.raised read raised
  rw [unnamed nofun, if_neg nofun] at ended
  exact ⟨_, last, after, ended⟩

def misnamedChunk : String :=
  "globalThis['x'] = '1'; throw \x7bname: 'SyntaxError'\x7d;"

def knowsMember (engine : Engine) : Bool :=
  (engine.findProperty Intrinsic.global (.named "x")).isSome

def hidesRun (engine : Engine) : Bool :=
  match evaluateChunk "a.js" misnamedChunk engine with
  | .done (.error (.chunkNotLoaded _ _), last) => !knowsMember engine && knowsMember last
  | _ => false

theorem exists_of_hidesRun {engine : Engine} (hides : hidesRun engine = true) :
    ∃ (place reason : String) (last : Engine),
      evaluateChunk "a.js" misnamedChunk engine = .done (.error (.chunkNotLoaded place reason), last) ∧
      knowsMember engine = false ∧ knowsMember last = true := by
  unfold hidesRun at hides
  split at hides
  · rename_i place reason last ended
    rw [Bool.and_eq_true, Bool.not_eq_true'] at hides
    exact ⟨place, reason, last, ended, hides⟩
  · contradiction

theorem hidesRun_new : hidesRun .new = true := by
  decide +kernel

theorem run_reported_unloaded :
    ∃ (place reason : String) (last : Engine),
      evaluateChunk "a.js" misnamedChunk .new = .done (.error (.chunkNotLoaded place reason), last) ∧
      knowsMember .new = false ∧ knowsMember last = true :=
  exists_of_hidesRun hidesRun_new

end Bridge

end ScriptedShell
