import ScriptedShell.Proofs.CommandRun
import ScriptedShell.Proofs.Moment
import ScriptedShell.Proofs.ScriptView
import ScriptedShell.Script.Standard

/-!
From a line to a script. A line with arguments between single quotes calls the script function once,
with exactly these arguments but the empty ones, be it through the shell function of the same name or
through the bridge's command.
-/

namespace ScriptedShell

open Quoting

def Word.marks : List Char :=
  ['$', '\'', '"', '\\', '=']

theorem Word.ofText_eq_plain {text : String} (unmarked : ∀ mark ∈ marks, mark ∉ text.toList) :
    ofText text = plain text := by
  have marks : (text.toList.any fun character =>
      character == '\'' || character == '"' || character == '\\') = false := by
    rw [List.any_eq_false]
    intro character member marked
    simp only [Bool.or_eq_true, beq_iff_eq] at marked
    rcases marked with (rfl | rfl) | rfl
    · exact unmarked '\'' (by decide) member
    · exact unmarked '"' (by decide) member
    · exact unmarked '\\' (by decide) member
  have noAssignment : isAssignmentText text = false := by
    rw [isAssignmentText, splitAtFirst_eq_none (unmarked '=' (by decide))]
  simp [ofText, WordFlags.ofText, plain, marks, noAssignment, unmarked '$' (by decide)]

theorem Word.ofText_of_isIdentifier {name : String} (identifier : isIdentifier name = true) :
    ofText name = plain name := by
  have special : (marks.all fun mark => !isNamePart mark) = true := by decide
  refine ofText_eq_plain fun mark member => notMem_of_isIdentifier identifier mark ?_
  simpa using List.all_eq_true.mp special mark member

theorem Settings.maxCallDepth_pos {settings : Settings} (valid : settings.problem? = none) :
    0 < settings.host.maxCallDepth.toNat := by
  refine Nat.pos_of_ne_zero fun zero => ?_
  have none : settings.host.maxCallDepth = 0 := UInt64.toNat_inj.mp zero
  grind [problem?]

namespace Shell

theorem expandWords_plain (shell : Shell) (name : String) (rest : List Word) :
    shell.expandWords (plain name :: rest) = name :: shell.expandWords rest :=
  rfl

theorem expandWords_guarded (shell : Shell) (texts : List String) :
    shell.expandWords (texts.map guarded) = texts := by
  induction texts with
  | nil => rfl
  | cons first rest ih => exact congrArg (first :: ·) ih

theorem expandWords_cons (shell : Shell) (word : Word) (rest : List Word) :
    shell.expandWords (word :: rest) = shell.expandWord word ++ shell.expandWords rest :=
  List.flatMap_cons

theorem expandWords_allArguments (shell : Shell) :
    shell.expandWords [.ofText allArguments] = shell.arguments :=
  List.append_nil shell.arguments

end Shell

theorem scriptArguments_literal (texts : List String) :
    scriptArguments (texts.map Word.literal) = texts.filter fun text => !text.isEmpty := by
  have same : Word.text ∘ Word.literal = id := rfl
  rw [scriptArguments, List.map_map, same, List.map_id]

theorem forwardingBody_ok {shape : Option RecordShape} {builtin name : String} {body : Command}
    (command : Word.ofText builtin = plain builtin)
    (made : forwardingBody shape builtin name = .ok body) :
    ∃ own, shape = some own ∧ body =
      (.ofWords own [plain builtin, plain "call", .ofText name, .ofText Shell.allArguments]) := by
  have call : Word.ofText "call" = plain "call" := Word.ofText_of_isIdentifier (by decide)
  rw [forwardingBody, command, call] at made
  cases shape with
  | none => contradiction
  | some own =>
      cases made
      exact ⟨own, rfl, rfl⟩

namespace Session

theorem callsOf_push (session : Session) (event : Event) (index : Nat) :
    callsOf { session with events := session.events.push event } index =
      session.callsOf index ++ (event.callOf? index).toList := by
  cases called : event.callOf? index with
  | none => simp [callsOf, called]
  | some call => simp [callsOf, called]

theorem callsOf_called (session : Session) (index : Nat) (function : String)
    (texts : List String) :
    ((Run.emit (.scriptCalled index function texts)).after (session.occupied index)).callsOf index =
      session.callsOf index ++ [(function, texts)] := by
  have called : (Event.scriptCalled index function texts).callOf? index = some (function, texts) := by
    simp [Event.callOf?]
  rw [Run.after_emit, callsOf_push, called]
  rfl

end Session

namespace Script

variable [Library]

/-- What a host makes of how a script function has ended. -/
def answered : Outcome Value × Engine → Dialogue (Except Fault Answer × Engine)
  | (.value result, engine) => .done (.ok (Answer.ofValue engine result), engine)
  | (.thrown thrown, engine) =>
    (Report.ofThrown thrown engine).bind fun
      | (.value report, engine) => .done (.error (callFault report), engine)
      | (.thrown _, engine) => .done (.error (callFault ⟨none, ""⟩), engine)

theorem callFunction_eq (callee : Value) (texts : List String) (engine : Engine) :
    callFunction callee texts engine =
      (callFromHost callee .undefined (texts.map Value.ofString) engine).bind answered := by
  change ((callFromHost callee .undefined (texts.map Value.ofString) engine).bind _).bind _ = _
  rw [Dialogue.bind_bind]
  congr 1
  funext ended
  obtain ⟨outcome, last⟩ := ended
  cases outcome with
  | value result => rfl
  | thrown thrown => rfl

/-- A call by name invokes the function that the name reads as, with these texts and no receiver, whatever
the reading has done. -/
def Invokes (name : String) (texts : List String) (engine : Engine) : Prop :=
  ∀ {host : Host} {before between : Session} {callee : Value} {next : Engine},
    (Member.readNamed callFromHost (.object Intrinsic.global) name).Yields host engine before callee next
      between →
    next.isCallable callee = true →
    (callGlobal name texts engine).conduct host before =
      ((callFromHost callee .undefined (texts.map Value.ofString) next).bind answered).conduct host
        between

theorem callGlobal_invokes (name : String) (texts : List String) (engine : Engine) :
    Invokes name texts engine := by
  intro host before between callee next read callable
  rw [callGlobal, Dialogue.conduct_bind, Run.bind_of_eq before (use_yields read), ← callFunction_eq]
  simp only [callable, if_true]

end Script

namespace Machine

variable {stage : Stage}

def Waiting.isPlain : {stage : Stage} → Waiting stage → Bool
  | _, .nobody => true
  | _, .lines _ _ _ => false
  | _, .function outer => outer.isPlain
  | _, .script _ _ _ => false
  | _, .command _ outer => outer.isPlain
  | _, .bridge _ outer => outer.isPlain

theorem callsOf_report (index other : Nat) (result : Except Fault Status) (session : Session) :
    ((Bridge.report index result).after session).callsOf other = session.callsOf other := by
  cases result with
  | ok status => rfl
  | error fault => exact (session.callsOf_push _ other).trans (List.append_nil _)

theorem ends_quietly [Script.Language] {waiting : Waiting stage} (plain : waiting.isPlain = true)
    (answer : stage.Answer) (session : Session) :
    ∃ last : Config, Reaches (waiting.hear answer session) last ∧ step last = none ∧
      ∀ index, last.session.callsOf index = session.callsOf index := by
  induction waiting generalizing session with
  | nobody => exact ⟨_, .refl, rfl, fun _ => rfl⟩
  | lines number rest outer ih => contradiction
  | script index next outer ih => contradiction
  | function outer ih =>
      obtain ⟨last, reaches, ended, same⟩ :=
        ih plain answer { session with shell := session.shell.leaveFunction }
      exact ⟨last, .first rfl reaches, ended, same⟩
  | command inverted outer ih =>
      obtain ⟨last, reaches, ended, same⟩ := ih plain _ _
      exact ⟨last, .first rfl reaches, ended, same⟩
  | bridge index outer ih =>
      obtain ⟨last, reaches, ended, same⟩ := ih plain _ _
      exact ⟨last, .first rfl reaches, ended,
        fun other => (same other).trans (callsOf_report index other answer session)⟩

theorem startCommand_plain {command : Command} {session : Session}
    (shaped : session.shell.shape = some command.shape) (direct : command.redirections = [])
    (waiting : Waiting .command) :
    startCommand command waiting session =
      ⟨.words command.line command.words, .command command.inverted waiting, session⟩ := by
  rw [startCommand, Execution.refusal?_eq_none shaped direct]

theorem reaches_fields_of_command [Script.Language] {shape : RecordShape} {session : Session}
    {words : List Word} (shaped : session.shell.shape = some shape)
    (command : Shell.assignments? words = none) (waiting : Waiting .command) :
    Reaches ⟨.command (.ofWords shape words), waiting, session⟩
      (startFields 0 (session.shell.expandWords words) (.command false waiting) session) := by
  have own : session.shell.shape = some (Command.ofWords shape words).shape := by
    rw [shaped, Command.shape_ofWords]
  have begun := startCommand_plain own (Command.redirections_ofWords shape words) waiting
  rw [Command.line_ofWords, Command.words_ofWords, Command.inverted_ofWords] at begun
  have looked : startWords 0 words (.command false waiting) session =
      startFields 0 (session.shell.expandWords words) (.command false waiting) session := by
    rw [startWords, command]
  exact .first (congrArg some begun) (.single (congrArg some looked))

theorem reaches_fields_of_line [Script.Language] {line : String} {first : Word} {rest : List Word}
    {shape : RecordShape} {session : Session} (lexed : lexLine line = .ok (first :: rest))
    (upright : Session.isInversion first = false) (shaped : session.shell.shape = some shape)
    (command : Shell.assignments? (first :: rest) = none) :
    Reaches (begin (.line line) session)
      (startFields 0 (session.shell.expandWords (first :: rest)) (.command false .nobody)
        session) := by
  have read : startLine 0 line .nobody session =
      ⟨.command (.ofWords shape (first :: rest)), .nobody, session⟩ := by
    rw [startLine, Session.readLine_eq_command lexed upright shaped, Command.ofWords_atLine_zero]
  exact .first (congrArg some read) (reaches_fields_of_command shaped command .nobody)

theorem startFields_bound {index : Nat} {builtin : String} {texts : List String}
    {waiting : Waiting .words} {session : Session}
    (unshadowed : session.shell.functions.find? builtin = none)
    (bound : session.shell.extensions.find? builtin = some (.bridge index)) (line : Int32) :
    startFields line (builtin :: texts) waiting session =
      ⟨.bridge index (texts.map Word.literal), waiting, session⟩ := by
  simp only [startFields, unshadowed, bound]

theorem reaches_forwarding [Script.Language] {index : Nat} {builtin name line : String} {first : Word}
    {rest : List Word} {texts : List String} {shape : RecordShape} {session : Session}
    (free : session.shell.depth < session.shell.settings.maxCallDepth.toNat)
    (shaped : session.shell.shape = some shape)
    (found : session.shell.functions.find? name = some
      (.ofWords shape [plain builtin, plain "call", .ofText name, .ofText Shell.allArguments]))
    (unshadowed : session.shell.functions.find? builtin = none)
    (bound : session.shell.extensions.find? builtin = some (.bridge index))
    (lexed : lexLine line = .ok (first :: rest)) (upright : Session.isInversion first = false)
    (command : Shell.assignments? (first :: rest) = none)
    (expanded : session.shell.expandWords (first :: rest) = name :: texts) :
    let entered : Session := { session with shell := session.shell.enterFunction texts }
    Reaches (begin (.line line) session)
      ⟨.bridge index (("call" :: (entered.shell.expandWord (.ofText name) ++ texts)).map Word.literal),
        .command false (.function (.command false .nobody)), entered⟩ := by
  intro entered
  let body : List Word := [plain builtin, plain "call", .ofText name, .ofText Shell.allArguments]
  have looked := reaches_fields_of_line lexed upright shaped command
  have called : startFields 0 (name :: texts) (.command false .nobody) session =
      ⟨.command (.ofWords shape body), .function (.command false .nobody), entered⟩ := by
    simp only [startFields, found, startFunction, Nat.not_le.mpr free, if_false]
    rfl
  have entrance : entered.shell.shape = some shape := shaped
  have bodyCommand : Shell.assignments? body = none :=
    Shell.assignments?_eq_none List.mem_cons_self rfl
  have forwarded := reaches_fields_of_command entrance bodyCommand
    (.function (.command false .nobody))
  simp only [body, Shell.expandWords_plain, Shell.expandWords_cons entered.shell (.ofText name),
    Shell.expandWords_allArguments] at forwarded
  have unshadowed : entered.shell.functions.find? builtin = none := unshadowed
  have bound : entered.shell.extensions.find? builtin = some (.bridge index) := bound
  rw [startFields_bound unshadowed bound] at forwarded
  rw [expanded, called] at looked
  exact looked.then forwarded

def atCall [Script.Library] (index : Nat) (function : String) (texts : List String) (engine : Script.Engine)
    (waiting : Waiting .request) (session : Session) : Config :=
  ⟨.script index (talkOf (·.bind Script.Answer.status) (Script.callGlobal function texts engine)),
    waiting, session⟩

theorem reaches_atCall [Script.Language] {index : Nat} {function : String} {texts : List String}
    {engine : Script.Engine} {waiting : Waiting .words} {session : Session}
    (named : function.isEmpty = false) (present : (session.bridge index).engine = some engine)
    (idle : (session.bridge index).busy = false) :
    let given := scriptArguments (texts.map Word.literal)
    Reaches ⟨.bridge index (("call" :: function :: texts).map Word.literal), waiting, session⟩
      (atCall index function given engine (.bridge index waiting)
        ((Run.emit (.scriptCalled index function given)).after (session.occupied index))) := by
  have read : BridgeRequest.ofWords (("call" :: function :: texts).map Word.literal) =
      .ok (.call function (texts.map Word.literal)) := by
    simp [BridgeRequest.ofWords, Word.literal, named]
  have asked : startBridge index (("call" :: function :: texts).map Word.literal) waiting session =
      ⟨.request index (.call function (texts.map Word.literal)), .bridge index waiting, session⟩ := by
    rw [startBridge, read]
  refine .first (congrArg some asked) (.single (congrArg some ?_))
  rw [startRequest, startScript, Bridge.enter_idle present idle]
  rfl

end Machine

theorem Session.engine_of_isInitialized {session : Session} {index : Nat}
    (started : (session.bridge index).isInitialized = true) :
    (session.bridge index).engine = some (session.engine index) := by
  obtain ⟨engine, present⟩ := Option.isSome_iff_exists.mp started
  rw [engine_eq_of_present present, present]

/-- A bridge of a valid host is started, answers to its command, and has registered a function. -/
structure Session.Offers (session : Session) (index : Nat) (function : String) : Prop where
  host : ∃ settings : Settings, settings.problem? = none ∧ session.shell.settings = settings.host
  command : isIdentifier (session.bridge index).settings.builtinName = true
  started : (session.bridge index).isInitialized = true
  shape : (session.bridge index).shape = session.shell.shape
  bound : session.shell.extensions.find? (session.bridge index).settings.builtinName =
    some (.bridge index)
  unshadowed : session.shell.functions.find? (session.bridge index).settings.builtinName = none
  identifier : isIdentifier function = true
  registered : ∃ body, session.shell.functions.find? function = some body ∧
    forwardingBody (session.bridge index).shape (session.bridge index).settings.builtinName
      function = .ok body

namespace Session.Offers

variable {session : Session} {index : Nat} {function : String}

theorem maxCallDepth_pos (offers : session.Offers index function) :
    0 < session.shell.settings.maxCallDepth.toNat := by
  obtain ⟨settings, valid, same⟩ := offers.host
  rw [same]
  exact settings.maxCallDepth_pos valid

theorem present (offers : session.Offers index function) :
    (session.bridge index).engine = some (session.engine index) :=
  engine_of_isInitialized offers.started

end Session.Offers

namespace Machine

open Session

variable {session : Session} {index : Nat} {function : String}

theorem callsOf_after_answer [Script.Language] {stage : Stage} {line : String} {waiting : Waiting stage}
    {answer : stage.Answer} {inside : Session} (resting : session.Resting)
    (reaches : Reaches (begin (.line line) session) (waiting.hear answer inside))
    (plain : waiting.isPlain = true) :
    ((Session.runLine line).after session).callsOf index = inside.callsOf index := by
  obtain ⟨last, later, ended, same⟩ := ends_quietly plain answer inside
  have whole := (reaches_begin (.line line) resting).eq_of_ended rfl ended (reaches.then later)
  calc ((Session.runLine line).after session).callsOf index
      = last.session.callsOf index := congrArg (Session.callsOf · index) (congrArg Config.session whole)
    _ = inside.callsOf index := same index

theorem callsOf_after [Script.Language] {line : String} {texts : List String} {engine : Script.Engine}
    {waiting : Waiting .request} {inside : Session} (resting : session.Resting)
    (reaches : Reaches (begin (.line line) session)
      (atCall index function texts engine waiting inside))
    (plain : waiting.isPlain = true) :
    ((Session.runLine line).after session).callsOf index = inside.callsOf index := by
  have balanced := balanced_reaches (balanced_begin _ resting) reaches
  have returned := reaches.then (reaches_meaning balanced)
  have used := Bridge.conduct_keeps Session.nested_keeps (balanced.bound List.mem_cons_self)
    (talkOf (·.bind Script.Answer.status) (Script.callGlobal function texts engine))
  have silent := used.calls index ((balanced.busy index).mpr List.mem_cons_self)
  exact (callsOf_after_answer resting returned plain).trans silent

/-- A line makes one call of a script function with these texts, and no other on the bridge. -/
def Delivers [Script.Language] (session : Session) (index : Nat) (function : String) (texts : List String)
    (line : String) : Prop :=
  ((Session.runLine line).after session).callsOf index =
      session.callsOf index ++ [(function, texts)] ∧
    ∃ (waiting : Waiting .request) (inside : Session), Reaches (begin (.line line) session)
      (atCall index function texts (session.engine index) waiting inside)

end Machine

end ScriptedShell
