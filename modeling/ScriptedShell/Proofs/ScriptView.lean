import ScriptedShell.Proofs.OwnObject
import ScriptedShell.Proofs.ScriptText
import ScriptedShell.Proofs.VariableHistory

/-!
What a script sees of the shell's variables, and how it writes them. Its names and values are sequences of
16-bit units, and every text comes back from that form as it was.
-/

namespace ScriptedShell

namespace Script

namespace Dialogue

theorem conduct_bind {m : Type → Type} [Monad m] [LawfulMonad m] {α β : Type}
    (answer : Engine → (request : HostRequest) → m (request.Reply × Engine))
    (dialogue : Dialogue α) (next : α → Dialogue β) :
    (dialogue.bind next).conduct answer =
      dialogue.conduct answer >>= fun result => (next result).conduct answer := by
  induction dialogue with
  | done result => simp [Dialogue.bind, conduct]
  | ask engine request continuation ih => simp [Dialogue.bind, conduct, ih]

end Dialogue

abbrev Host := Engine → (request : HostRequest) → Run (request.Reply × Engine)

/-- An action ends with a value, with the engine and the session that it leaves. -/
def Action.Yields {α : Type} (host : Host) (action : Action α) (engine : Engine) (session : Session)
    (value : α) (engineAfter : Engine) (sessionAfter : Session) : Prop :=
  (action engine).conduct host session = ((.value value, engineAfter), sessionAfter)

namespace Action.Yields

variable {α β : Type} {host : Host} {engine middle last : Engine}
  {session between after : Session}

theorem pure (value : α) : Yields host (Pure.pure value) engine session value engine session :=
  rfl

theorem inspect (view : Engine → α) :
    Yields host (Action.inspect view) engine session (view engine) engine session :=
  rfl

theorem change (f : Engine → Engine) :
    Yields host (Action.change f) engine session () (f engine) session :=
  rfl

theorem bind {action : Action α} {next : α → Action β} {value : α} {result : β}
    (first : action.Yields host engine session value middle between)
    (rest : (next value).Yields host middle between result last after) :
    (action >>= next).Yields host engine session result last after := by
  change ((action engine).bind _).conduct host session = _
  rw [Dialogue.conduct_bind, Run.bind_of_eq session first]
  exact rest

theorem ask {request : HostRequest} {reply : request.Reply}
    (answered : host engine request session = ((reply, middle), after)) :
    (Action.ask request).Yields host engine session reply middle after := by
  have asked : (Action.ask request engine).conduct host = host engine request >>= fun answered =>
      Dialogue.conduct host (.done (Outcome.value answered.1, answered.2)) := rfl
  rw [Yields, asked, Run.bind_of_eq session answered]
  rfl

end Action.Yields

namespace Action

variable {α β : Type}

def Raises (host : Host) (action : Action α) (engine : Engine) (session : Session) (thrown : Value)
    (engineAfter : Engine) (sessionAfter : Session) : Prop :=
  (action engine).conduct host session = ((.thrown thrown, engineAfter), sessionAfter)

theorem yields_or_raises (host : Host) (action : Action α) (engine : Engine) (session : Session) :
    (∃ (value : α) (last : Engine) (after : Session),
        action.Yields host engine session value last after) ∨
      ∃ (thrown : Value) (last : Engine) (after : Session),
        action.Raises host engine session thrown last after := by
  cases ended : (action engine).conduct host session with
  | mk left after =>
      obtain ⟨outcome, last⟩ := left
      cases outcome with
      | value value => exact .inl ⟨value, last, after, ended⟩
      | thrown thrown => exact .inr ⟨thrown, last, after, ended⟩

/-- An action never throws, and all its values are of a kind. -/
def Concludes (action : Action α) (kind : α → Prop) : Prop :=
  ∀ (host : Host) (engine : Engine) (session : Session), ∃ (value : α) (last : Engine) (after : Session),
    action.Yields host engine session value last after ∧ kind value

namespace Concludes

variable {kind : α → Prop}

theorem pure {value : α} (known : kind value) : Concludes (Pure.pure value) kind :=
  fun _ engine session => ⟨value, engine, session, .pure value, known⟩

theorem inspect (view : Engine → α) : Concludes (Action.inspect view) fun _ => True :=
  fun _ engine session => ⟨view engine, engine, session, .inspect view, trivial⟩

theorem outcome (action : Action α) : Concludes (Action.outcome action) fun _ => True := by
  intro host engine session
  cases ended : (action engine).conduct host session with
  | mk left after =>
      refine ⟨left.1, left.2, after, ?_, trivial⟩
      rw [Yields, Action.outcome, Dialogue.conduct_bind, Run.bind_of_eq session ended]
      rfl

theorem bind {further : β → Prop} {action : Action α} {next : α → Action β}
    (first : action.Concludes kind) (rest : ∀ value, kind value → (next value).Concludes further) :
    (action >>= next).Concludes further := by
  intro host engine session
  obtain ⟨value, middle, between, yields, known⟩ := first host engine session
  obtain ⟨result, last, after, yieldsToo, reached⟩ := rest value known host middle between
  exact ⟨result, last, after, yields.bind yieldsToo, reached⟩

end Concludes

end Action

namespace Action.Returns

variable {α : Type} {engine last : Engine}

theorem yields {action : Action α} {value : α} (returns : action.Returns engine value last)
    (host : Host) (session : Session) : action.Yields host engine session value last session := by
  rw [Yields, returns]
  rfl

end Action.Returns

section

variable [Library] {α : Type} {action : Action α} {fault : Report → Fault} {host : Host}
  {engine middle last : Engine} {session between after : Session} {thrown : Value} {report : Report}

theorem use_yields {value : α} (yields : action.Yields host engine session value last after) :
    (action.use fault engine).conduct host session = ((.ok value, last), after) := by
  rw [Action.use, Dialogue.conduct_bind, Run.bind_of_eq session yields]
  rfl

theorem use_raises (raises : action.Raises host engine session thrown middle between)
    (told : (Report.ofThrown thrown).Yields host middle between report last after) :
    (action.use fault engine).conduct host session = ((.error (fault report), last), after) := by
  rw [Action.use, Dialogue.conduct_bind, Run.bind_of_eq session raises]
  simp only
  rw [Dialogue.conduct_bind, Run.bind_of_eq between told]
  rfl

end

theorem Convert.hostText_yields (call : Caller) (host : Host) (text : String) (engine : Engine)
    (session : Session) :
    (hostText call (.ofString text)).Yields host engine session text engine session := by
  have units : (Convert.text call (.ofString text)).Yields host engine session (Utf16.encode text)
      engine session := rfl
  refine .bind units ?_
  rw [Utf16.decode_encode]
  exact .pure text

end Script

namespace Session

theorem stored_stored (session : Session) (index : Nat) (first second : Script.Engine) :
    (session.stored index first).stored index second = session.stored index second := by
  rw [stored, stored, changeBridge, changeBridge, stored, changeBridge]
  simp only [List.modify_modify_eq]
  rfl

theorem stored_bound {session : Session} {index : Nat} (bound : index < session.bridges.length)
    (engine : Script.Engine) : index < (session.stored index engine).bridges.length := by
  rwa [stored, changeBridge_length]

theorem engine_stored {session : Session} {index : Nat} (bound : index < session.bridges.length)
    (engine : Script.Engine) : (session.stored index engine).engine index = engine := by
  rw [Session.engine, stored, bridge_changeBridge_self _ bound]
  rfl

end Session

namespace Bridge

open Script

variable {session : Session} {index : Nat}

theorem answer_presence (nested : Nested) (present : session.shellPresent = true)
    (bound : index < session.bridges.length) (engine : Engine) :
    answer nested index engine .presence session =
      ((.ok (), engine), session.stored index engine) := by
  have answered : answer nested index engine .presence session =
      ((if session.shellPresent then .ok () else .error .hostGone,
        (session.stored index engine).engine index), session.stored index engine) := rfl
  rw [answered, present, Session.engine_stored bound, if_pos rfl]

theorem answer_getVariable (nested : Nested) (bound : index < session.bridges.length)
    (engine : Engine) (name : String) :
    answer nested index engine (.getVariable name) session =
      ((session.shell.bindings.value? name, engine), session.stored index engine) := by
  have answered : answer nested index engine (.getVariable name) session =
      ((session.shell.bindings.value? name, (session.stored index engine).engine index),
        session.stored index engine) := rfl
  rw [answered, Session.engine_stored bound]

theorem answer_setVariable (nested : Nested) (bound : index < session.bridges.length)
    (engine : Engine) (name value : String) :
    answer nested index engine (.setVariable name value) session =
      (((), engine),
        { session.stored index engine with shell := session.shell.assign name value }) := by
  have answered : answer nested index engine (.setVariable name value) session =
      (((), (session.stored index engine).engine index),
        { session.stored index engine with shell := session.shell.assign name value }) := rfl
  rw [answered, Session.engine_stored bound]

theorem answer_environment (nested : Nested) (bound : index < session.bridges.length)
    (engine : Engine) :
    answer nested index engine .environment session =
      ((environment session.shell, engine), session.stored index engine) := by
  have answered : answer nested index engine .environment session =
      ((environment session.shell, (session.stored index engine).engine index),
        session.stored index engine) := rfl
  rw [answered, Session.engine_stored bound]

end Bridge

namespace Script

def Value.ofVariable (value : Option String) : Value :=
  (value.map Value.ofString).getD .undefined

namespace ShellCall

variable {session : Session} {index : Nat}

theorem requireHost_yields (nested : Nested) (present : session.shellPresent = true)
    (bound : index < session.bridges.length) (engine : Engine) :
    requireHost.Yields (Bridge.answer nested index) engine session () engine
      (session.stored index engine) :=
  .bind (.ask (Bridge.answer_presence nested present bound engine)) (.pure ())

theorem getVariable_yields (call : Caller) (nested : Nested) (present : session.shellPresent = true)
    (bound : index < session.bridges.length) (engine : Engine) (name : String)
    (more : List Value) :
    (run call .getVariable (.ofString name :: more)).Yields (Bridge.answer nested index) engine
      session (.ofVariable (session.shell.bindings.value? name)) engine
      (session.stored index engine) := by
  have asked := Bridge.answer_getVariable nested (Session.stored_bound bound engine) engine name
  rw [Session.stored_stored] at asked
  rw [run, if_neg (by simp [ShellFunction.required])]
  refine .bind (Convert.hostText_yields call _ name engine session) ?_
  refine .bind (requireHost_yields nested present bound engine) (.bind (.ask asked) ?_)
  have same : (session.stored index engine).shell = session.shell := rfl
  rw [same]
  cases session.shell.bindings.value? name with
  | none => exact .pure _
  | some value => exact .pure _

theorem setVariable_yields (call : Caller) (nested : Nested) (present : session.shellPresent = true)
    (bound : index < session.bridges.length) (engine : Engine) (name value : String)
    (more : List Value) :
    (run call .setVariable (.ofString name :: .ofString value :: more)).Yields
      (Bridge.answer nested index) engine session .undefined engine
      { session.stored index engine with shell := session.shell.assign name value } := by
  have asked := Bridge.answer_setVariable nested (Session.stored_bound bound engine) engine name value
  rw [Session.stored_stored] at asked
  rw [run, if_neg (by simp [ShellFunction.required])]
  refine .bind (Convert.hostText_yields call _ name engine session) ?_
  refine .bind (Convert.hostText_yields call _ value engine session) ?_
  exact .bind (requireHost_yields nested present bound engine) (.bind (.ask asked) (.pure _))

end ShellCall

open Evaluation

theorem invoke_shell [Library] {engine : Engine} {id : ObjectId} {function : ShellFunction}
    (known : (engine.object id).objectClass = .builtin (.shell function)) (fuel : Nat)
    (receiver : Value) (arguments : List Value) :
    invoke (fuel + 1) (.object id) receiver arguments engine =
      ShellCall.run (invoke fuel) function arguments engine := by
  rw [invoke]
  simp only [bind, Action.bind, Action.object, Action.inspect, Dialogue.bind, known]
  rfl

theorem invoke_createObject [Library] {engine : Engine} {id : ObjectId}
    (known : (engine.object id).objectClass = .builtin .createObject) (fuel : Nat) :
    invoke (fuel + 1) (.object id) .undefined [.null] engine =
      .done (.value (.object engine.objects.size),
        (engine.allocate { objectClass := .plain, prototype := none }).2) := by
  rw [invoke]
  simp only [bind, Action.bind, Action.object, Action.inspect, Dialogue.bind, known]
  rfl

variable {host : Host} {engine : Engine} {session : Session}

theorem Member.readNamed_returns (call : Caller) {id : ObjectId} {name : String} {value : Value}
    (plain : engine.plainMember? id name = some value) :
    (readNamed call (.object id) name).Returns engine value engine := by
  have looked : (find? id (.named name)).Returns engine (engine.findProperty id (.named name))
      engine := .inspect _
  refine .bind looked ?_
  unfold Engine.plainMember? at plain
  split at plain
  · rename_i found
    rw [found]
    cases plain
    exact .pure value
  · contradiction

theorem ShellCall.bareObject_yields [Library] (own : engine.hasOwnObject = true) (fuel : Nat) :
    (bareObject (invoke (fuel + 1))).Yields host engine session (.object engine.objects.size)
      (engine.allocate { objectClass := .plain, prototype := none }).2 session := by
  obtain ⟨holder, create, object, function, known⟩ := Engine.create_of_hasOwnObject own
  refine .bind ((Member.readNamed_returns _ object).yields host session) (.bind (.pure _) ?_)
  have callable : engine.isCallable (.object create) = true := by
    rw [Engine.isCallable, ScriptObject.isCallable, known]
  have wanted : (wantFunction (.object create)).Yields host engine session (.object create) engine
      session := by
    refine .bind (.inspect _) ?_
    rw [callable]
    exact .pure _
  have created : (invoke (fuel + 1) (.object create) .undefined [.null]).Yields host engine session
      (.object engine.objects.size)
      (engine.allocate { objectClass := .plain, prototype := none }).2 session := by
    rw [Action.Yields, invoke_createObject known]
    rfl
  have read := (Member.readNamed_returns (invoke (fuel + 1)) function).yields host session
  exact .bind read (.bind wanted (.bind created (.pure _)))

theorem PropertyKey.named_injective {left right : String}
    (same : PropertyKey.named left = .named right) : left = right :=
  Utf16.encode_injective (PropertyKey.text.inj same)

theorem replaceEntry_of_lookup {key : PropertyKey} {entries : List (PropertyKey × Property)}
    (absent : entries.lookup key = none) (property : Property) :
    replaceEntry key property entries = entries ++ [(key, property)] := by
  induction entries with
  | nil => rfl
  | cons head rest ih =>
      obtain ⟨other, old⟩ := head
      rw [List.lookup_cons] at absent
      cases same : key == other with
      | true =>
          rw [same] at absent
          contradiction
      | false =>
          rw [same] at absent
          have different : other ≠ key := by
            rintro rfl
            simp at same
          rw [replaceEntry, if_neg different, ih absent, List.cons_append]

theorem Engine.object_alter {id : ObjectId} (bound : id < engine.objects.size)
    (f : ScriptObject → ScriptObject) : (engine.alter id f).object id = f (engine.object id) := by
  simp only [Engine.object, Engine.alter, Array.getD_eq_getD_getElem?, Array.getElem?_modify]
  simp [bound]

def bare (properties : List (PropertyKey × Property)) : ScriptObject where
  objectClass := .plain
  prototype := none
  properties

theorem Engine.findProperty_bare {id : ObjectId} {properties : List (PropertyKey × Property)}
    (bound : id < engine.objects.size) (object : engine.object id = bare properties)
    {key : PropertyKey} (absent : properties.lookup key = none) :
    engine.findProperty id key = none := by
  obtain ⟨steps, size⟩ := Nat.exists_eq_add_one_of_ne_zero (Nat.ne_zero_of_lt bound)
  have own : (bare properties).own? key = none := absent
  rw [findProperty, size, findProperty.search, object, own]
  rfl

def listed (entries : List (String × Option String)) : List (PropertyKey × Property) :=
  entries.map fun (name, value) => (.named name, .plain (.ofVariable value))

theorem Member.assignAll_yields (call : Caller) {id : ObjectId}
    (entries : List (String × Option String))
    (distinct : entries.Pairwise fun left right => left.1 ≠ right.1)
    {before : List (PropertyKey × Property)} (bound : id < engine.objects.size)
    (object : engine.object id = bare before)
    (fresh : ∀ entry ∈ entries, before.lookup (.named entry.1) = none) :
    ∃ after : Engine,
      (Action.forItems
        (fun (name, value) => assign call (.object id) (.named name) (.ofVariable value))
        entries).Yields host engine session () after session ∧
      after.object id = bare (before ++ listed entries) := by
  induction entries generalizing engine before with
  | nil => exact ⟨engine, .pure (), by simpa [listed] using object⟩
  | cons first rest ih =>
      obtain ⟨name, value⟩ := first
      obtain ⟨now, later⟩ := List.pairwise_cons.mp distinct
      obtain ⟨absent, laterFresh⟩ := List.forall_mem_cons.mp fresh
      let property := Property.plain (.ofVariable value)
      let next := engine.alter id (Member.add (.named name) property)
      have assigned : (assign call (.object id) (.named name) (.ofVariable value)).Yields host engine
          session () next session := by
        have missing : (find? id (.named name)).Yields host engine session none engine session := by
          rw [← Engine.findProperty_bare bound object absent]
          exact .inspect _
        exact .bind missing (.change _)
      have size : id < next.objects.size := by
        simpa [next, Engine.alter] using bound
      have added : next.object id = bare (before ++ [(.named name, property)]) := by
        rw [Engine.object_alter bound, object, ← replaceEntry_of_lookup absent]
        rfl
      have fresher : ∀ entry ∈ rest,
          (before ++ [(PropertyKey.named name, property)]).lookup (PropertyKey.named entry.1) = none := by
        intro entry member
        have different : (PropertyKey.named entry.1 == PropertyKey.named name) = false := by
          rw [beq_eq_false_iff_ne]
          exact fun same => now entry member (PropertyKey.named_injective same).symm
        rw [List.lookup_append, laterFresh entry member, List.lookup_cons, different]
        rfl
      obtain ⟨after, yields, last⟩ := ih later size added fresher
      refine ⟨after, .bind assigned yields, ?_⟩
      rw [last, List.append_assoc]
      rfl

theorem ShellCall.getEnvironment_yields [Library] (own : engine.hasOwnObject = true) (nested : Nested)
    {index : Nat} (present : session.shellPresent = true)
    (bound : index < session.bridges.length) (fuel : Nat) (arguments : List Value)
    (distinct : (Bridge.environment session.shell).Pairwise fun left right => left.1 ≠ right.1) :
    ∃ stored after : Engine,
      (run (invoke (fuel + 1)) .getEnvironment arguments).Yields (Bridge.answer nested index) engine
        session (.object engine.objects.size) after (session.stored index stored) ∧
      after.object engine.objects.size = bare (listed (Bridge.environment session.shell)) := by
  let made := (engine.allocate { objectClass := .plain, prototype := none }).2
  have asked := Bridge.answer_environment nested (Session.stored_bound bound engine) made
  rw [Session.stored_stored] at asked
  have size : engine.objects.size < made.objects.size := by
    simp [made, Engine.allocate]
  have object : made.object engine.objects.size = bare [] := by
    simp [made, Engine.allocate, Engine.object, Array.getD, bare]
  have same : (session.stored index engine).shell = session.shell := rfl
  rw [same] at asked
  obtain ⟨after, assigned, last⟩ := Member.assignAll_yields (invoke (fuel + 1))
    (Bridge.environment session.shell) distinct size object fun _ _ => rfl
  refine ⟨made, after, ?_, last⟩
  rw [run, if_neg (by simp [ShellFunction.required])]
  refine .bind (requireHost_yields nested present bound engine) ?_
  refine .bind (bareObject_yields own fuel) (.bind (.ask asked) ?_)
  exact .bind assigned (.pure _)

end Script

end ScriptedShell
