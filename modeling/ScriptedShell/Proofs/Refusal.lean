import ScriptedShell.Proofs.FileLookup
import ScriptedShell.Proofs.ScriptView
import ScriptedShell.Proofs.StartFailure
import ScriptedShell.Script.Standard

/-!
Requests that a bridge refuses. A refusal comes before everything that a request does, but for the reading
of the global that a call names.
-/

namespace ScriptedShell

open Script Machine

/-- What a request is refused with: none of it says that something was run. -/
def Fault.isRefusal : Fault → Bool
  | .notInitialized | .engineBusy | .notAFunction _ | .malformedRequest _ | .hostGone
  | .unsupportedVersion _ => true
  | _ => false

theorem Fault.not_ofScript {fault : Fault} (refusal : fault.isRefusal = true) :
    fault.ofScript = false := by
  cases fault <;> first | rfl | contradiction

def Script.Slot.reader? : Slot → Option ObjectId
  | .value _ _ => none
  | .accessor getter _ => getter
  | .proxied reader _ => some reader

def Script.Engine.reader? (engine : Engine) (id : ObjectId) (name : String) : Option ObjectId :=
  (engine.findProperty id (.named name)).bind fun found => found.2.slot.reader?

namespace Script

variable [Library] {engine : Engine}

theorem readNamed_unread {id : ObjectId} {name : String} (unread : engine.reader? id name = none) :
    ∃ value : Value, (Member.readNamed callFromHost (.object id) name).Returns engine value engine := by
  have looked : (Member.find? id (.named name)).Returns engine
      (engine.findProperty id (.named name)) engine := .inspect _
  cases found : engine.findProperty id (.named name) with
  | none =>
      refine ⟨.undefined, .bind looked ?_⟩
      rw [found]
      exact .pure _
  | some entry =>
      obtain ⟨holder, ⟨slot, enumerable, configurable⟩⟩ := entry
      rw [Engine.reader?, found] at unread
      cases slot with
      | value value writable =>
          refine ⟨value, .bind looked ?_⟩
          rw [found]
          exact .pure _
      | accessor getter setter =>
          obtain rfl : getter = none := unread
          refine ⟨.undefined, .bind looked ?_⟩
          rw [found]
          exact .pure _
      | proxied reader writer => exact nomatch unread

namespace Report

theorem textMember_concludes (object : Value) (name : String) :
    (textMember object name).Concludes fun _ => True := by
  refine .bind (.outcome _) fun ended _ => ?_
  split
  · exact .pure trivial
  · exact .pure trivial

theorem ofThrown_concludes (thrown : Value) :
    (ofThrown thrown).Concludes fun report => (∀ id, thrown ≠ .object id) → report.name = none := by
  by_cases object : ∃ id, thrown = .object id
  · obtain ⟨id, rfl⟩ := object
    refine .bind (textMember_concludes _ _) fun name _ => ?_
    refine .bind (textMember_concludes _ _) fun message _ => .pure ?_
    exact fun other => absurd rfl (other id)
  · have told : (ofThrown thrown).Concludes fun report => report.name = none := by
      unfold ofThrown
      split
      · rename_i id
        exact absurd ⟨id, rfl⟩ object
      · refine .bind (.outcome _) fun ended _ => ?_
        cases ended with
        | value text => exact .pure rfl
        | thrown value => exact .bind (.inspect _) fun _ _ => .pure rfl
    intro host engine session
    obtain ⟨report, last, after, yields, unnamed⟩ := told host engine session
    exact ⟨report, last, after, yields, fun _ => unnamed⟩

end Report

theorem Action.yields_of_use {α : Type} {action : Action α} {fault : Report → Fault} {host : Host}
    {last : Engine} {session after : Session} {value : α}
    (used : (action.use fault engine).conduct host session = ((.ok value, last), after)) :
    action.Yields host engine session value last after := by
  rcases action.yields_or_raises host engine session with
    ⟨result, middle, between, yields⟩ | ⟨thrown, middle, between, raises⟩
  · rw [use_yields yields] at used
    cases used
    exact yields
  · obtain ⟨report, final, later, told, _⟩ := Report.ofThrown_concludes thrown host middle between
    rw [use_raises raises told] at used
    cases used

theorem callGlobal_refused {name : String} {arguments : List String} {host : Host} {last : Engine}
    {session after : Session} {fault : Fault}
    (ended : (callGlobal name arguments engine).conduct host session =
      ((.error fault, last), after)) (other : fault.ofScript = false) :
    fault = .notAFunction name ∧ ∃ value : Value,
      (Member.readNamed callFromHost (.object Intrinsic.global) name).Yields host engine session value
        last after ∧ last.isCallable value = false := by
  let read := (Member.readNamed callFromHost (.object Intrinsic.global) name).use callFault engine
  have reads : read.Ends (Fails (Fault.ofScript · = true)) :=
    use_fails (Fault.ofScript · = true) _ (fun _ => rfl) engine
  rw [callGlobal, Dialogue.conduct_bind] at ended
  cases used : read.conduct host session with
  | mk answered between =>
      obtain ⟨result, next⟩ := answered
      rw [Run.bind_of_eq session used] at ended
      cases result with
      | error cause =>
          cases ended
          have script : fault.ofScript = true :=
            reads.conduct host session fault (congrArg (fun ended => ended.1.1) used)
          rw [other] at script
          contradiction
      | ok function =>
          cases callable : next.isCallable function with
          | true =>
              simp only [callable, if_true] at ended
              have script : fault.ofScript = true :=
                (callFunction_fails function arguments next).conduct host between fault
                  (congrArg (fun ended => ended.1.1) ended)
              rw [other] at script
              contradiction
          | false =>
              simp only [callable] at ended
              cases ended
              exact ⟨rfl, function, Action.yields_of_use used, callable⟩

theorem callGlobal_of_read {function : String} {value : Value} (arguments : List String)
    (read : (Member.readNamed callFromHost (.object Intrinsic.global) function).Returns engine value
      engine) :
    callGlobal function arguments engine =
      if engine.isCallable value then callFunction value arguments engine
      else .done (.error (.notAFunction function), engine) := by
  have ended : Member.readNamed callFromHost (.object Intrinsic.global) function engine =
      .done (.value value, engine) := read
  simp only [callGlobal, Action.use, ended, Dialogue.bind]

end Script

theorem Session.changeBridge_self {session : Session} {index : Nat} {f : Bridge → Bridge}
    (same : f (session.bridge index) = session.bridge index) :
    session.changeBridge index f = session := by
  have bridges : session.bridges.modify index f = session.bridges := by
    apply List.ext_getElem?
    intro other
    rw [List.getElem?_modify]
    by_cases here : index = other
    · subst here
      cases found : session.bridges[index]? with
      | none => rfl
      | some bridge =>
          rw [Session.bridge_eq_of_getElem? found] at same
          simp [same]
    · simp [here]
  rw [changeBridge, bridges]

theorem Session.released_occupied {session : Session} {index : Nat} {engine : Engine}
    (present : (session.bridge index).engine = some engine)
    (idle : (session.bridge index).busy = false) :
    (session.occupied index).released index engine = session := by
  rw [occupied, released, changeBridge_changeBridge]
  refine changeBridge_self ?_
  cases held : session.bridge index with
  | mk settings shape stored busy =>
      rw [held] at present idle
      cases present
      cases idle
      rfl

def Session.announced (index : Nat) (function : String) (words : List Word) (session : Session) :
    Session :=
  (Run.emit (.scriptCalled index function (scriptArguments words))).after (session.occupied index)

/-- All is as it was. At most it has been noted that a function is called. -/
structure Session.Spared (index : Nat) (session after : Session) : Prop where
  shell : after.shell = session.shell
  shellPresent : after.shellPresent = session.shellPresent
  bridges : after.bridges = session.bridges
  files : after.files = session.files
  events : after.events = session.events ∨ ∃ (function : String) (arguments : List String),
    after.events = session.events.push (.scriptCalled index function arguments)

theorem Session.Spared.refl (index : Nat) (session : Session) : session.Spared index session :=
  ⟨rfl, rfl, rfl, rfl, .inl rfl⟩

/-- If a call is refused because the global that it names is no function, then nothing runs when that global
is read. -/
def Session.ReadsPlainly [Library] (session : Session) (index : Nat) (fault : Fault) : Prop :=
  ∀ (name : String) (engine : Engine), fault = .notAFunction name →
    (session.bridge index).engine = some engine → ∃ value : Value,
      (Member.readNamed callFromHost (.object Intrinsic.global) name).Returns engine value engine

namespace Bridge

variable [Language]
variable {nested : Nested} {session after : Session} {index : Nat} {engine : Engine} {fault : Fault}

theorem call_idle (present : (session.bridge index).engine = some engine)
    (idle : (session.bridge index).busy = false) {function : String} {words : List Word}
    {result : Except Fault Answer} {last : Engine} {between : Session}
    (conducted : (callGlobal function (scriptArguments words) engine).conduct (answer nested index)
      (session.announced index function words) = ((result, last), between)) :
    call nested index function words session =
      (result.bind Answer.status, between.released index last) := by
  have asked : converse nested index (callGlobal function (scriptArguments words) engine)
      (session.announced index function words) = (result, between.released index last) := by
    rw [converse, Run.bind_of_eq _ conducted]
    rfl
  rw [call, Run.bind_of_eq session (enter_idle present idle)]
  change (converse nested index (callGlobal function (scriptArguments words) engine) >>= fun result =>
    pure (result.bind Answer.status)) (session.announced index function words) = _
  rw [Run.bind_of_eq _ asked]
  rfl

theorem start_refused (refused : start index session = (.error fault, after))
    (refusal : fault.isRefusal = true) : after = session := by
  cases starts_of_eq refused with
  | missing => rfl
  | undetected => rfl
  | unmade => contradiction

theorem load_unstarted (path : String) (failed : start index session = (.error fault, after)) :
    load nested index path session = (.error fault, after) := by
  rw [load, Run.bind_of_eq session failed]
  rfl

theorem load_unentered (path : String) (started : start index session = (.ok (), after))
    (failed : enter index after = (.error fault, after)) :
    load nested index path session = (.error fault, after) := by
  rw [load, Run.bind_of_eq session started]
  simp only
  rw [Run.bind_of_eq after failed]
  rfl

theorem call_unentered (function : String) (words : List Word)
    (failed : enter index session = (.error fault, session)) :
    call nested index function words session = (.error fault, session) := by
  rw [call, Run.bind_of_eq session failed]
  rfl

theorem load_refused {path : String}
    (started : (session.bridge index).busy = true → (session.bridge index).isInitialized = true)
    (refused : load nested index path session = (.error fault, after))
    (refusal : fault.isRefusal = true) :
    after = session ∧ ∀ other : Nested, load other index path session = (.error fault, session) := by
  cases ended : start index session with
  | mk result between =>
      cases result with
      | error cause =>
          rw [load_unstarted path ended] at refused
          cases refused
          obtain rfl := start_refused ended refusal
          exact ⟨rfl, fun _ => load_unstarted path ended⟩
      | ok value =>
          obtain ⟨engine, present⟩ := Option.isSome_iff_exists.mp (start_started ended)
          cases busy : (between.bridge index).busy with
          | true =>
              have kept := (start_keeps index session).bridges index
              rw [Run.after, ended] at kept
              have again := start_initialized (started (kept.busy.symm.trans busy))
              rw [ended] at again
              cases again
              have stopped := enter_busy present busy
              rw [load_unentered path ended stopped] at refused
              cases refused
              exact ⟨rfl, fun _ => load_unentered path ended stopped⟩
          | false =>
              rw [load, Run.bind_of_eq session ended] at refused
              simp only at refused
              rw [Run.bind_of_eq between (enter_idle present busy)] at refused
              have failed := congrArg Prod.fst refused
              have script := converse_fails (loadFile_fails _ path engine) failed
              rw [Fault.not_ofScript refusal] at script
              contradiction

/-- A call that is refused has at most read the global that it names. -/
theorem call_refused {function : String} {words : List Word}
    (refused : call nested index function words session = (.error fault, after))
    (refusal : fault.isRefusal = true) :
    ((fault = .notInitialized ∨ fault = .engineBusy) ∧ after = session ∧
        ∀ other : Nested, call other index function words session = (.error fault, session)) ∨
      ∃ (engine last : Engine) (value : Value) (between : Session),
        fault = .notAFunction function ∧ (session.bridge index).engine = some engine ∧
        (session.bridge index).busy = false ∧
        (Member.readNamed callFromHost (.object Intrinsic.global) function).Yields
          (answer nested index) engine (session.announced index function words) value last between ∧
        last.isCallable value = false ∧ after = between.released index last := by
  cases present : (session.bridge index).engine with
  | none =>
      have stopped := enter_absent present
      rw [call_unentered function words stopped] at refused
      cases refused
      exact .inl ⟨.inl rfl, rfl, fun _ => call_unentered function words stopped⟩
  | some engine =>
      cases busy : (session.bridge index).busy with
      | true =>
          have stopped := enter_busy present busy
          rw [call_unentered function words stopped] at refused
          cases refused
          exact .inl ⟨.inr rfl, rfl, fun _ => call_unentered function words stopped⟩
      | false =>
          cases conducted : (callGlobal function (scriptArguments words) engine).conduct
              (answer nested index) (session.announced index function words) with
          | mk answered between =>
              obtain ⟨result, last⟩ := answered
              rw [call_idle present busy conducted] at refused
              have script := Fault.not_ofScript refusal
              cases result with
              | ok reply =>
                  rw [status_fails (congrArg Prod.fst refused)] at script
                  contradiction
              | error cause =>
                  cases refused
                  obtain ⟨rfl, value, read, uncallable⟩ := callGlobal_refused conducted script
                  exact .inr ⟨engine, last, value, between, rfl, rfl, rfl, read, uncallable, rfl⟩

theorem call_spared {function : String} {words : List Word}
    (refused : call nested index function words session = (.error fault, after))
    (refusal : fault.isRefusal = true) (plain : session.ReadsPlainly index fault) :
    session.Spared index after ∧
      ∀ other : Nested, call other index function words session = (.error fault, after) := by
  rcases call_refused refused refusal with
    ⟨_, rfl, same⟩ | ⟨engine, last, value, between, rfl, present, idle, read, uncallable, rfl⟩
  · exact ⟨.refl index _, same⟩
  · obtain ⟨known, quiet⟩ := plain function engine rfl present
    have same := (quiet.yields (answer nested index) (session.announced index function words)).symm.trans
      read
    cases same
    have restored : (session.announced index function words).released index engine =
        { session with
          events := session.events.push (.scriptCalled index function (scriptArguments words)) } :=
      congrArg (fun session : Session => { session with
        events := session.events.push (.scriptCalled index function (scriptArguments words)) })
        (Session.released_occupied present idle)
    rw [restored]
    refine ⟨⟨rfl, rfl, rfl, rfl, .inr ⟨_, _, rfl⟩⟩, fun other => ?_⟩
    have conducted : (callGlobal function (scriptArguments words) engine).conduct
        (answer other index) (session.announced index function words) =
        ((.error (.notAFunction function), engine), session.announced index function words) := by
      rw [callGlobal_of_read _ quiet, uncallable]
      rfl
    rw [call_idle present idle conducted, restored]
    rfl

theorem perform_start {result : Except Fault Unit} (ended : start index session = (result, after)) :
    perform nested index .start session = (result.map fun _ => .success, after) := by
  rw [perform, Run.bind_of_eq session ended]
  rfl

theorem perform_load {path : String} {result : Except Fault Unit}
    (ended : load nested index path session = (result, after)) :
    perform nested index (.load path) session = (result.map fun _ => .success, after) := by
  rw [perform, Run.bind_of_eq session ended]
  rfl

theorem perform_spared {request : BridgeRequest}
    (started : (session.bridge index).busy = true → (session.bridge index).isInitialized = true)
    (refused : perform nested index request session = (.error fault, after))
    (refusal : fault.isRefusal = true) (plain : session.ReadsPlainly index fault) :
    session.Spared index after ∧
      ∀ other : Nested, perform other index request session = (.error fault, after) := by
  cases request with
  | start =>
      cases ended : start index session with
      | mk result between =>
          rw [perform_start ended] at refused
          cases result with
          | ok value => exact nomatch congrArg Prod.fst refused
          | error cause =>
              cases refused
              have same := start_refused ended refusal
              rw [same] at ended ⊢
              exact ⟨.refl index _, fun other => perform_start ended⟩
  | load path =>
      cases ended : load nested index path session with
      | mk result between =>
          rw [perform_load ended] at refused
          cases result with
          | ok value => exact nomatch congrArg Prod.fst refused
          | error cause =>
              cases refused
              obtain ⟨rfl, stopped⟩ := load_refused started ended refusal
              exact ⟨.refl index _, fun other => perform_load (stopped other)⟩
  | call function words => exact call_spared refused refusal plain

end Bridge

def Session.complaining (session : Session) (index : Nat) (fault : Fault) : Session :=
  { session with
    events := session.events.push
      (.diagnostic (Bridge.complaint (session.bridge index).settings.builtinName fault)) }

theorem Fault.status_of_refusal {fault : Fault} (refusal : fault.isRefusal = true) :
    fault.status = .failure := by
  cases fault <;> first | rfl | contradiction

theorem Bridge.report_refusal {fault : Fault} (refusal : fault.isRefusal = true) (index : Nat)
    (session : Session) :
    report index (.error fault) session = (.failure, session.complaining index fault) := by
  rw [← Fault.status_of_refusal refusal]
  rfl

structure Session.RefusesQuietly [Language] (session : Session) (index : Nat) : Prop where
  /-- Nothing changes, and whatever commands would do, it would be the same: none was run. -/
  spared : ∀ {request : BridgeRequest} {fault : Fault} {after : Session},
    Bridge.perform Session.nested index request session = (.error fault, after) →
    fault.isRefusal = true → session.ReadsPlainly index fault →
    session.Spared index after ∧
      ∀ other : Nested, Bridge.perform other index request session = (.error fault, after)
  /-- A call that is refused for the global that it names has read that global, whatever runs for it, and has
  done nothing else. -/
  read : ∀ {function name : String} {words : List Word} {after : Session},
    Bridge.perform Session.nested index (.call function words) session =
      (.error (.notAFunction name), after) →
    name = function ∧ ∃ (engine last : Engine) (value : Value) (between : Session),
      (session.bridge index).engine = some engine ∧
      (Member.readNamed callFromHost (.object Intrinsic.global) function).Yields
        (Bridge.answer Session.nested index) engine (session.announced index function words) value last
        between ∧
      last.isCallable value = false ∧ after = between.released index last
  /-- The command of a bridge fails then, and all that it adds is a diagnostic. -/
  words : ∀ {words : List Word} {request : BridgeRequest} {fault : Fault} {after : Session}
    {nested : Nested}, BridgeRequest.ofWords words = .ok request →
    Bridge.perform nested index request session = (.error fault, after) → fault.isRefusal = true →
    Bridge.runWords nested index words session = (.failure, after.complaining index fault)
  malformed : ∀ {words : List Word} {fault : Fault}, BridgeRequest.ofWords words = .error fault →
    fault.isRefusal = true ∧ ∀ nested : Nested,
      Bridge.runWords nested index words session = (.failure, session.complaining index fault)

theorem BridgeRequest.malformed_of_ofWords {words : List Word} {fault : Fault}
    (failed : ofWords words = .error fault) : ∃ problem, fault = .malformedRequest problem := by
  unfold ofWords at failed
  repeat' split at failed
  all_goals first | contradiction | (cases failed; exact ⟨_, rfl⟩)

theorem BridgeRequest.isRefusal_of_ofWords {words : List Word} {fault : Fault}
    (failed : ofWords words = .error fault) : fault.isRefusal = true := by
  obtain ⟨problem, rfl⟩ := malformed_of_ofWords failed
  rfl

/-- At every moment of every run, and for every bridge: a request that is refused has changed nothing and
has run nothing, but for what runs when the global that a call names is read. -/
theorem Machine.refusals_spare [Language] {stage : Stage} (operation : Operation stage) {start : Session}
    {config : Config} (resting : start.Resting) (reaches : Reaches (begin operation start) config)
    (index : Nat) : config.session.RefusesQuietly index := by
  have balanced := balanced_reaches (balanced_begin operation resting) reaches
  have started : (config.session.bridge index).busy = true →
      (config.session.bridge index).isInitialized = true :=
    fun busy => balanced.started index ((balanced.busy index).mp busy)
  refine
    { spared := fun refused refusal plain => Bridge.perform_spared started refused refusal plain
      read := ?read
      words := ?words
      malformed := ?malformed }
  case read =>
    intro function name words after refused
    rcases Bridge.call_refused refused rfl with
      ⟨other, _⟩ | ⟨engine, last, value, between, same, present, _, read, uncallable, left⟩
    · rcases other with other | other <;> contradiction
    · exact ⟨Fault.notAFunction.inj same, engine, last, value, between, present, read, uncallable,
        left⟩
  case words =>
    intro words request fault after nested given refused refusal
    unfold Bridge.runWords
    simp only [given]
    rw [Run.bind_of_eq _ refused, Bridge.report_refusal refusal]
  case malformed =>
    intro words fault failed
    have refusal := BridgeRequest.isRefusal_of_ofWords failed
    refine ⟨refusal, fun nested => ?_⟩
    unfold Bridge.runWords
    simp only [failed]
    exact Bridge.report_refusal refusal index _

theorem Machine.refusals_spare_absent_function :
    ∃ after : Session,
      Bridge.perform Session.nested 0 (.call "absent" []) printing =
        (.error (.notAFunction "absent"), after) ∧ printing.Spared 0 after ∧
      Bridge.runWords Session.nested 0 [.literal "call", .literal "absent"] printing =
        (.failure, after.complaining 0 (.notAFunction "absent")) := by
  have rule := Machine.refusals_spare (.request 0 (.call "absent" [])) printing_resting .refl 0
  have refused : Bridge.perform Session.nested 0 (.call "absent" []) printing =
      (.error (.notAFunction "absent"), _) := rfl
  have plain : printing.ReadsPlainly 0 (.notAFunction "absent") := by
    rintro name engine ⟨⟩ ⟨⟩
    exact readNamed_unread (by decide)
  exact ⟨_, refused, (rule.spared refused rfl plain).1, rule.words rfl refused rfl⟩

theorem Bridge.load_fresh [Language] {session : Session} {index : Nat} {bridge : Bridge} {shape : RecordShape}
    {engine loaded : Engine} {path : String} {nested : Nested}
    (found : session.bridges[index]? = some bridge) (fresh : bridge.isInitialized = false)
    (idle : bridge.busy = false) (detected : detectShape session bridge = .ok shape)
    (made : Engine.withShell bridge.settings.scriptNamespace = .ok engine)
    (ran : loadFile session.files path engine = .done (.ok (), loaded)) :
    load nested index path session =
      (.ok (), session.changeBridge index fun bridge =>
        { bridge with shape := some shape, engine := some loaded, busy := false }) := by
  have started := start_made found fresh detected made
  have bound : index < session.bridges.length := (List.getElem?_eq_some_iff.mp found).1
  let equipped := session.changeBridge index fun bridge =>
    { bridge with shape := some shape, engine := some engine }
  have own : equipped.bridge index =
      { bridge with shape := some shape, engine := some engine } := by
    rw [Session.bridge_changeBridge_self _ bound, Session.bridge_eq_of_getElem? found]
  have entered : enter index equipped = (.ok engine, equipped.occupied index) :=
    enter_idle (congrArg Bridge.engine own) ((congrArg Bridge.busy own).trans idle)
  rw [load, Run.bind_of_eq session started]
  simp only
  rw [Run.bind_of_eq equipped entered]
  have conversed : converse nested index (loadFile session.files path engine)
      (equipped.occupied index) = (.ok (), (equipped.occupied index).released index loaded) := by
    rw [ran]
    rfl
  refine conversed.trans (congrArg (Prod.mk _) ?_)
  rw [Session.occupied, Session.released, Session.changeBridge_changeBridge,
    Session.changeBridge_changeBridge]

theorem exists_of_any {made : Except Fault Engine} {check : Engine → Bool}
    (good : made.toOption.any check = true) : ∃ engine, made = .ok engine ∧ check engine = true := by
  cases made with
  | ok engine => exact ⟨engine, rfl, good⟩
  | error fault => contradiction

def withChunk (source : String) : FileTree :=
  FileTree.bare.put ["work", "a.js"] (.file source.toUTF8)

theorem withChunk_readText (source : String) : (withChunk source).readText "a.js" = .ok source := by
  have chunk : FileTree.IsBareName "a.js" := by decide
  have written := FileTree.node?_put_self .bare (List.cons_ne_nil "work" ["a.js"]) (.file source.toUTF8)
  have directory : (withChunk source).node? ["work"] = some .directory :=
    FileTree.node?_put_other _ (by decide) _
  apply FileTree.readText_of_read
  rw [FileTree.read_bare _ chunk]
  change FileTree.readNode ((withChunk source).node? ["work"]) ((withChunk source).node? ["work", "a.js"]) = _
  rw [directory, withChunk, written]
  rfl

def getterChunk : String :=
  "Object.defineProperty(globalThis, 'g', \x7bget() \x7b bash.setVariable('X', '1'); \x7d\x7d);"

def setsAndFails : Dialogue (Except Fault Answer × Engine) → Bool
  | .ask engine .presence next =>
    match next (.ok ()) engine with
    | .ask engine (.setVariable name value) next =>
      match next () engine with
      | .done (.error (.notAFunction function), _) => name == "X" && value == "1" && function == "g"
      | _ => false
    | _ => false
  | _ => false

theorem conduct_setsAndFails (nested : Nested) {index : Nat} {session : Session}
    {dialogue : Dialogue (Except Fault Answer × Engine)} (sets : setsAndFails dialogue = true)
    (present : session.shellPresent = true) (bound : index < session.bridges.length) :
    ∃ (last : Engine) (after : Session),
      dialogue.conduct (Bridge.answer nested index) session =
        ((.error (.notAFunction "g"), last), after) ∧
      after.shell = session.shell.assign "X" "1" := by
  unfold setsAndFails at sets
  split at sets
  · rename_i first next
    split at sets
    · rename_i second name value last asked
      split at sets
      · rename_i function final ended
        simp only [Bool.and_eq_true, beq_iff_eq] at sets
        obtain ⟨⟨rfl, rfl⟩, rfl⟩ := sets
        have stored := Session.stored_bound bound first
        let between := session.stored index first
        let after : Session :=
          { between.stored index second with shell := between.shell.assign "X" "1" }
        refine ⟨final, after, ?_, rfl⟩
        rw [Dialogue.conduct, Run.bind_of_eq session (Bridge.answer_presence nested present bound first)]
        simp only [asked]
        rw [Dialogue.conduct, Run.bind_of_eq _ (Bridge.answer_setVariable nested stored second _ _)]
        simp only [ended]
        rfl
      · contradiction
    · contradiction
  · contradiction

def getterRuns (engine : Engine) : Bool :=
  match evaluateChunk "a.js" getterChunk engine with
  | .done (.ok (), loaded) => setsAndFails (callGlobal "g" (scriptArguments []) loaded)
  | _ => false

theorem exists_of_getterRuns {engine : Engine} (runs : getterRuns engine = true) :
    ∃ loaded : Engine, evaluateChunk "a.js" getterChunk engine = .done (.ok (), loaded) ∧
      setsAndFails (callGlobal "g" (scriptArguments []) loaded) = true := by
  unfold getterRuns at runs
  split at runs
  · rename_i loaded ended
    exact ⟨loaded, ended, runs⟩
  · contradiction

theorem getterRuns_bash : (Engine.withShell "bash").toOption.any getterRuns = true := by
  decide +kernel

theorem getter_run_by_refused_call :
    ∃ loaded after : Session, loaded.Reachable ∧
      Bridge.perform Session.nested 0 (.call "g" []) loaded = (.error (.notAFunction "g"), after) ∧
      loaded.shell.bindings.value? "X" = none ∧ after.shell.bindings.value? "X" = some "1" := by
  let attached := (Change.attach {}).apply (Session.new {} (withChunk getterChunk))
  obtain ⟨engine, made, runs⟩ := exists_of_any getterRuns_bash
  obtain ⟨filled, evaluated, sets⟩ := exists_of_getterRuns runs
  have ran : Bridge.loadFile (withChunk getterChunk) "a.js" engine = .done (.ok (), filled) := by
    rw [Bridge.loadFile, withChunk_readText]
    exact evaluated
  have found : attached.bridges[0]? = some { settings := {} } := rfl
  let loaded := attached.changeBridge 0 fun bridge =>
    { bridge with shape := some .version3, engine := some filled, busy := false }
  have loading : Bridge.load Session.nested 0 "a.js" attached = (.ok (), loaded) :=
    Bridge.load_fresh found rfl rfl rfl made ran
  have performed : (Operation.request 0 (.load "a.js")).run attached = (.ok .success, loaded) :=
    Bridge.perform_load loading
  have reached : loaded.Reachable := by
    have reached : Session.Reachable _ :=
      .operation (.change (.new {} (withChunk getterChunk)) (.attach {})) (.request 0 (.load "a.js"))
    rwa [Run.after, performed] at reached
  have present : (loaded.bridge 0).engine = some filled := rfl
  have idle : (loaded.bridge 0).busy = false := rfl
  have hosted : (loaded.announced 0 "g" []).shellPresent = true := rfl
  have bound : 0 < (loaded.announced 0 "g" []).bridges.length := Nat.one_pos
  obtain ⟨last, between, conducted, shell⟩ :=
    conduct_setsAndFails Session.nested sets hosted bound
  have refused := Bridge.call_idle present idle conducted
  refine ⟨loaded, between.released 0 last, reached, refused, rfl, ?_⟩
  have stored : between.shell.bindings.value? "X" = some "1" := by
    rw [shell]
    exact Variables.value?_assign _ "X" "1" "X"
  exact stored

end ScriptedShell
