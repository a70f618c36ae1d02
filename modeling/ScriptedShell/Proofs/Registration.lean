import ScriptedShell.Proofs.Delivery
import ScriptedShell.Proofs.LiteralText
import ScriptedShell.Script.Standard

/-!
What a registered name calls. The function that is registered for a name hands its arguments to the
bridge's command, and the name with them, as a word that the shell expands anew at each call.
-/

namespace ScriptedShell

open Quoting

theorem Settings.isShellName_of_valid {settings : Settings} (valid : settings.problem? = none) :
    isShellName settings.builtinName = true := by
  grind [problem?]

theorem Word.ofText_of_isShellName {name : String} (shellName : isShellName name = true) :
    ofText name = plain name := by
  simp only [isShellName, Bool.and_eq_true, Bool.not_eq_true', List.any_eq_false, Bool.or_eq_true,
    not_or] at shellName
  have special : marks.all shellMarks.contains = true := by decide
  exact ofText_eq_plain fun mark member present =>
    (shellName.2 mark present).2 (List.all_eq_true.mp special mark member)

namespace Shell

/-- What the function of a name puts behind the bridge's `call` when it is given texts. -/
def forwardedFields (shell : Shell) (name : String) (texts : List String) : List String :=
  (shell.enterFunction texts).expandWord (.ofText name) ++ texts

end Shell

def scriptCall? : List String → Option (String × List String)
  | [] => none
  | function :: texts =>
    if function.isEmpty then none else some (function, texts.filter fun text => !text.isEmpty)

theorem eq_cons_of_scriptCall {fields given : List String} {function : String}
    (asked : scriptCall? fields = some (function, given)) :
    ∃ texts, fields = function :: texts ∧ function.isEmpty = false ∧
      given = texts.filter fun text => !text.isEmpty := by
  cases fields with
  | nil => contradiction
  | cons first rest =>
      by_cases empty : first.isEmpty = true
      · simp [scriptCall?, empty] at asked
      · simp only [scriptCall?, if_neg empty, Option.some.injEq, Prod.mk.injEq] at asked
        obtain ⟨rfl, rfl⟩ := asked
        exact ⟨rest, rfl, Bool.eq_false_iff.mpr empty, rfl⟩

theorem BridgeRequest.ofWords_of_no_call {fields : List String} (asked : scriptCall? fields = none) :
    ∃ fault, ofWords (("call" :: fields).map Word.literal) = .error fault := by
  cases fields with
  | nil => exact ⟨_, rfl⟩
  | cons first rest =>
      have empty : first.isEmpty = true := by
        simpa [scriptCall?] using asked
      exact ⟨.malformedRequest "call: missing function name", by simp [ofWords, Word.literal, empty]⟩

/-- A bridge of a valid host is started, answers to its command, and has registered a name. -/
structure Session.Registered (session : Session) (index : Nat) (name : String) : Prop where
  host : ∃ settings : Settings, settings.problem? = none ∧ session.shell.settings = settings.host
  valid : (session.bridge index).settings.problem? = none
  started : (session.bridge index).isInitialized = true
  shape : (session.bridge index).shape = session.shell.shape
  bound : session.shell.extensions.find? (session.bridge index).settings.builtinName =
    some (.bridge index)
  unshadowed : session.shell.functions.find? (session.bridge index).settings.builtinName = none
  named : name.isEmpty = false
  registered : ∃ body, session.shell.functions.find? name = some body ∧
    forwardingBody (session.bridge index).shape (session.bridge index).settings.builtinName
      name = .ok body

namespace Machine

open Session

variable {session : Session} {index : Nat} {name : String} {texts : List String}

theorem reaches_bridge_of_registered [Script.Language] (resting : session.Resting)
    (registered : session.Registered index name)
    (command : ∃ text ∈ name :: texts, isAssignmentText text = false) :
    let entered : Session := { session with shell := session.shell.enterFunction texts }
    Reaches (begin (.line (single name ++ Quoting.arguments texts)) session)
      ⟨.bridge index (("call" :: session.shell.forwardedFields name texts).map Word.literal),
        .command false (.function (.command false .nobody)), entered⟩ := by
  obtain ⟨settings, valid, same⟩ := registered.host
  obtain ⟨body, found, made⟩ := registered.registered
  have shellName := Settings.isShellName_of_valid registered.valid
  obtain ⟨shape, known, rfl⟩ := forwardingBody_ok (Word.ofText_of_isShellName shellName) made
  have shaped : session.shell.shape = some shape := registered.shape ▸ known
  have free : session.shell.depth < session.shell.settings.maxCallDepth.toNat := by
    rw [resting.depth, same]
    exact settings.maxCallDepth_pos valid
  have asked : Shell.assignments? ((name :: texts).map guarded) = none := by
    obtain ⟨text, member, noAssignment⟩ := command
    refine Shell.assignments?_eq_none (List.mem_map_of_mem member) ?_
    simp [Word.assignment?, guarded, noAssignment]
  exact reaches_forwarding free shaped found registered.unshadowed registered.bound
    (lexLine_single name texts) (isInversion_guarded name) asked
    (session.shell.expandWords_guarded (name :: texts))

theorem delivers_forwarded [Script.Language] (resting : session.Resting)
    (registered : session.Registered index name)
    (command : ∃ text ∈ name :: texts, isAssignmentText text = false) {function : String}
    {given : List String}
    (asked : scriptCall? (session.shell.forwardedFields name texts) = some (function, given)) :
    Delivers session index function given (single name ++ Quoting.arguments texts) := by
  obtain ⟨rest, fields, notEmpty, rfl⟩ := eq_cons_of_scriptCall asked
  have forwarded := reaches_bridge_of_registered resting registered command
  rw [fields] at forwarded
  let entered : Session := { session with shell := session.shell.enterFunction texts }
  have present : (entered.bridge index).engine = some (session.engine index) :=
    engine_of_isInitialized registered.started
  have idle : (entered.bridge index).busy = false := resting.idle index
  have called := forwarded.then (reaches_atCall notEmpty present idle)
  simp only [scriptArguments_literal] at called
  refine ⟨?_, _, _, called⟩
  rw [callsOf_after resting called rfl]
  exact entered.callsOf_called index _ _

theorem callsOf_of_no_call [Script.Language] (resting : session.Resting)
    (registered : session.Registered index name)
    (command : ∃ text ∈ name :: texts, isAssignmentText text = false)
    (asked : scriptCall? (session.shell.forwardedFields name texts) = none) :
    ((Session.runLine (single name ++ Quoting.arguments texts)).after session).callsOf index =
      session.callsOf index := by
  have forwarded := reaches_bridge_of_registered resting registered command
  obtain ⟨fault, refused⟩ := BridgeRequest.ofWords_of_no_call asked
  let entered : Session := { session with shell := session.shell.enterFunction texts }
  let waiting : Waiting .words := .command false (.function (.command false .nobody))
  have answered : startBridge index
      (("call" :: session.shell.forwardedFields name texts).map Word.literal) waiting entered =
        (Waiting.bridge index waiting).hear (.error fault) entered := by
    rw [startBridge, refused]
  have ended := forwarded.then (.single (congrArg some answered))
  have plain : (Waiting.bridge index waiting).isPlain = true := rfl
  have same : entered.callsOf index = session.callsOf index := rfl
  exact (callsOf_after_answer resting ended plain).trans same

theorem scriptCall_of_isLiteral (shell : Shell) (named : name.isEmpty = false)
    (literal : Template.isLiteral name = true) (texts : List String) :
    scriptCall? (shell.forwardedFields name texts) =
      some (name, texts.filter fun text => !text.isEmpty) := by
  rw [Shell.forwardedFields, Shell.expandWord_of_isLiteral _ literal]
  simp [scriptCall?, named]

/-- A line hands arguments between single quotes to a registered name, and not all of its words are
assignments. What the shell makes of the name, with the arguments behind it, says which script function
is called, once, or that none is. If no dollar in the name begins a reference, it is the function of this
very name, and it gets the arguments that are not empty. -/
theorem registration_forwards [Script.Language] (resting : session.Resting)
    (registered : session.Registered index name)
    (command : ∃ text ∈ name :: texts, isAssignmentText text = false) :
    let line := single name ++ Quoting.arguments texts
    let asked := scriptCall? (session.shell.forwardedFields name texts)
    (asked = none →
        ((Session.runLine line).after session).callsOf index = session.callsOf index) ∧
      (∀ (function : String) (given : List String), asked = some (function, given) →
        Delivers session index function given line) ∧
      (Template.isLiteral name = true →
        let given := texts.filter fun text => !text.isEmpty
        Delivers session index name given line ∧
          Script.Invokes name given (session.engine index)) := by
  intro line asked
  refine ⟨callsOf_of_no_call resting registered command, ?_, ?_⟩
  · intro function given called
    exact delivers_forwarded resting registered command called
  · intro literal given
    have called := scriptCall_of_isLiteral session.shell registered.named literal texts
    exact ⟨delivers_forwarded resting registered command called, Script.callGlobal_invokes name given _⟩

def registering (name : String) : Session :=
  let engine := Script.Intrinsic.addFunction Script.Intrinsic.global ⟨name, 1, .print⟩
    Script.Intrinsic.start
  let started := printing.changeBridge 0 fun bridge => { bridge with engine := some engine }
  let body : Command :=
    .ofWords .version3 [.ofText "bridge", .ofText "call", .ofText name, .ofText "$@"]
  (Change.define name body).apply started

theorem registering_resting (name : String) : (registering name).Resting := by
  refine Resting.change ?_ (.define name _)
  exact printing_resting.changeBridge 0 fun _ => rfl

theorem registering_registered {name : String} (different : "bridge" ≠ name)
    (named : name.isEmpty = false) : (registering name).Registered 0 name where
  host := ⟨{}, by decide, rfl⟩
  valid := (by decide : Settings.problem? {} = none)
  started := rfl
  shape := rfl
  bound := rfl
  unshadowed := (Table.find?_insert _ _ _ _).trans (if_neg different)
  named := named
  registered := ⟨_, (Table.find?_insert _ _ _ _).trans (if_pos rfl), rfl⟩

theorem registration_forwards_lone_dollar :
    let session := registering "print$"
    let given := ["it's", "$HOME"]
    Delivers session 0 "print$" given "'print$' 'it'\\''s' '' '$HOME'" ∧
      ∃ (callee : Script.Value) (engine : Script.Engine),
        (Script.Member.readNamed Script.callFromHost (.object Script.Intrinsic.global) "print$").Returns
          (session.engine 0) callee engine ∧
        engine.isCallable callee = true ∧
        ∀ (host : Script.Host) (before : Session),
          (Script.callGlobal "print$" given (session.engine 0)).conduct host before =
            ((Script.callFromHost callee .undefined (given.map Script.Value.ofString) engine).bind
              Script.answered).conduct host before := by
  intro session given
  have registered : session.Registered 0 "print$" :=
    registering_registered (by decide) (by decide)
  have command : ∃ text ∈ ["print$", "it's", "", "$HOME"], isAssignmentText text = false :=
    ⟨"print$", by decide, by decide⟩
  have forwards := registration_forwards (registering_resting "print$") registered command
  have literal : Template.isLiteral "print$" = true := by decide
  have delivered := forwards.2.2 literal
  exact ⟨delivered.1, _, _, rfl, rfl, fun _ _ => delivered.2 rfl rfl⟩

theorem registered_name_expanded :
    let session := registering "print$x"
    let line := "'print$x' 'hello'"
    Delivers session 0 "print" ["hello"] line ∧
      ¬ Delivers session 0 "print$x" ["hello"] line ∧
      ∃ (callee : Script.Value) (engine : Script.Engine),
        Script.Member.readNamed Script.callFromHost (.object Script.Intrinsic.global) "print$x"
          (session.engine 0) = .done (.value callee, engine) ∧
        engine.isCallable callee = true := by
  intro session line
  have registered : session.Registered 0 "print$x" :=
    registering_registered (by decide) (by decide)
  have command : ∃ text ∈ ["print$x", "hello"], isAssignmentText text = false :=
    ⟨"hello", by decide, by decide⟩
  have delivers : Delivers session 0 "print" ["hello"] line :=
    delivers_forwarded (registering_resting "print$x") registered command (by decide)
  refine ⟨delivers, ?_, _, _, rfl, rfl⟩
  intro other
  have same := delivers.1.symm.trans other.1
  simp at same

end Machine

end ScriptedShell
