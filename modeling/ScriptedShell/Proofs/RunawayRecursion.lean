import Mathlib.Data.Set.Basic
import ScriptedShell.Proofs.Delivery
import ScriptedShell.Proofs.LiteralText
import ScriptedShell.Script.Standard

/-!
Functions that call functions without end. The shell refuses the call that would nest too deeply, and then
every function that has been started ends, each with the status that the one inside it has left.
-/

namespace ScriptedShell

open Quoting

theorem Word.assignment?_of_isIdentifier {word : Word} (identifier : isIdentifier word.text = true) :
    word.assignment? = none := by
  have whole : splitAtEquals word.text = none := by
    rw [splitAtEquals, splitAtFirst_eq_none (notMem_of_isIdentifier identifier '=' (by decide))]
    rfl
  rw [assignment?, whole, ite_self]

theorem Shell.expandWord_of_isIdentifier (shell : Shell) {word : Word}
    (identifier : isIdentifier word.text = true) : shell.expandWord word = [word.text] :=
  shell.expandWord_of_given
    (Template.isLiteral_of_notMem (notMem_of_isIdentifier identifier '$' (by decide)))
    (isEmpty_of_isIdentifier identifier)

structure Command.Calls (shell : Shell) (names : Set String) (command : Command) : Prop where
  shape : shell.shape = some command.shape
  direct : command.redirections = []
  first : ∃ first rest, command.words = first :: rest ∧ first.text ∈ names

/-- Names of functions that call each other. -/
structure Shell.Closed (shell : Shell) (names : Set String) : Prop where
  identifiers : ∀ name ∈ names, isIdentifier name = true
  bodies : ∀ name ∈ names, ∃ body, shell.functions.find? name = some body ∧ body.Calls shell names

section

variable {shell : Shell} {names : Set String} (arguments : List String)

theorem Command.Calls.enterFunction {command : Command} (calls : command.Calls shell names) :
    command.Calls (shell.enterFunction arguments) names :=
  ⟨calls.shape, calls.direct, calls.first⟩

theorem Shell.Closed.enterFunction (closed : shell.Closed names) :
    (shell.enterFunction arguments).Closed names where
  identifiers := closed.identifiers
  bodies := by
    intro name member
    obtain ⟨body, found, calls⟩ := closed.bodies name member
    exact ⟨body, found, calls.enterFunction arguments⟩

end

/-- The status that is left by commands around a call that is refused, the outermost first. -/
def refusedStatus (commands : List Command) : Status :=
  if commands.countP (·.inverted) % 2 = 0 then .failure else .success

theorem refusedStatus_cons (command : Command) (inside : List Command) :
    refusedStatus (command :: inside) =
      if command.inverted then (refusedStatus inside).inverted else refusedStatus inside := by
  have failed : Status.failure.inverted = .success := by decide
  have succeeded : Status.success.inverted = .failure := by decide
  cases inverted : command.inverted with
  | false => simp [refusedStatus, inverted]
  | true =>
      simp only [refusedStatus, List.countP_cons, inverted, if_true]
      by_cases even : inside.countP (·.inverted) % 2 = 0
      · rw [if_neg (by omega), if_pos even, failed]
      · rw [if_pos (by omega), if_neg even, succeeded]

def Session.cut (session : Session) (refused : String) (status : Status) : Session :=
  { session with
    shell := session.shell.finish status
    events := session.events.push
      (.diagnostic (Execution.nestingComplaint refused session.shell.settings.maxCallDepth)) }

namespace Machine

inductive Callee where
  | function (name : String)
  | extension (name : String)
  | internal (name : String)
  | program (name : String)
deriving DecidableEq

def calleeOf (shell : Shell) (name : String) : Callee :=
  if (shell.functions.find? name).isSome then .function name
  else if (shell.extensions.find? name).isSome then .extension name
  else if (Execution.runInternal? name []).isSome then .internal name
  else .program name

def Config.callee? : Config → Option Callee
  | ⟨.words _ words, _, session⟩ =>
    match Shell.assignments? words with
    | some _ => none
    | none => (session.shell.expandWords words).head?.map (calleeOf session.shell)
  | _ => none

theorem eq_of_calleeOf {shell : Shell} {first name : String}
    (function : calleeOf shell first = .function name) :
    first = name ∧ ∃ body, shell.functions.find? name = some body := by
  unfold calleeOf at function
  split at function
  · rename_i found
    cases function
    exact ⟨rfl, Option.isSome_iff_exists.mp found⟩
  · split at function
    · contradiction
    · split at function
      · contradiction
      · contradiction

theorem step_of_callee [Script.Language] {line : Int32} {words : List Word} {waiting : Waiting .words}
    {session : Session} {name : String}
    (called : Config.callee? ⟨.words line words, waiting, session⟩ = some (.function name)) :
    ∃ body arguments, session.shell.functions.find? name = some body ∧
      step ⟨.words line words, waiting, session⟩ =
        some (startFunction name body arguments waiting session) := by
  simp only [Config.callee?] at called
  cases assigned : Shell.assignments? words with
  | some assignments =>
      rw [assigned] at called
      contradiction
  | none =>
      cases fields : session.shell.expandWords words with
      | nil => simp [assigned, fields] at called
      | cons first rest =>
          simp only [assigned, fields, List.head?_cons, Option.map_some, Option.some.injEq] at called
          obtain ⟨rfl, body, found⟩ := eq_of_calleeOf called
          exact ⟨body, rest, found, by simp only [step, startWords, assigned, fields, startFields, found]⟩

def Config.startedBody? : Config → Option Command
  | ⟨.command body, .function _, _⟩ => some body
  | _ => none

section

variable {stage : Stage} (waiting : Waiting stage) (answer : stage.Answer) (session : Session)

@[simp] theorem callee?_hear : (waiting.hear answer session).callee? = none := by
  cases stage <;> rfl

@[simp] theorem startedBody?_hear : (waiting.hear answer session).startedBody? = none := by
  cases stage <;> cases waiting <;> rfl

end

/-- All the moments from one to another, without the first one. -/
inductive Path [Script.Language] : Config → List Config → Config → Prop where
  | refl (config : Config) : Path config [] config
  | first {config next last : Config} {moments : List Config} (stepped : step config = some next)
      (later : Path next moments last) : Path config (next :: moments) last

theorem Path.then [Script.Language] {first middle last : Config} {moments more : List Config}
    (earlier : Path first moments middle) (later : Path middle more last) :
    Path first (moments ++ more) last := by
  induction earlier with
  | refl => exact later
  | first stepped _ ih => exact .first stepped (ih later)

theorem Path.reaches [Script.Language] {first last : Config} {moments : List Config}
    (path : Path first moments last) : Reaches first last := by
  induction path with
  | refl => exact .refl
  | first stepped _ ih => exact .first stepped ih

theorem Path.whole [Script.Language] {stage : Stage} {first : Config} {moments : List Config}
    {session after : Session} {answer : stage.Answer} {run : Run stage.Answer}
    (path : Path first moments (Waiting.nobody.hear answer after))
    (reaches : Reaches first (Waiting.nobody.await run session)) :
    Path first moments (Waiting.nobody.await run session) ∧ run session = (answer, after) := by
  let ended : Run stage.Answer := fun _ => (answer, after)
  have toEnd : Reaches first (Waiting.nobody.await ended session) := path.reaches
  have ran : run session = ended session := reaches.runs_eq toEnd
  have last : Waiting.nobody.await run session = Waiting.nobody.hear answer after := by
    rw [Waiting.await, Run.result, Run.after, ran]
  rw [last]
  exact ⟨path, ran⟩

theorem step_name [Script.Language] {session : Session} {shape : RecordShape} {name : String}
    (identifier : isIdentifier name = true) (shaped : session.shell.shape = some shape) :
    step (begin (.line name) session) =
      some ⟨.command (.ofWords shape [plain name]), .nobody, session⟩ := by
  have lexed := lexLine_function identifier []
  rw [Quoting.arguments, String.append_empty] at lexed
  have read := Session.readLine_eq_command lexed (Session.isInversion_plain identifier) shaped 0
  have begun : startLine 0 name .nobody session =
      ⟨.command (.ofWords shape [plain name]), .nobody, session⟩ := by
    rw [startLine, read, Command.ofWords_atLine_zero]
    rfl
  exact congrArg some begun

theorem callee?_function {session : Session} {first : Word} {body : Command}
    (identifier : isIdentifier first.text = true)
    (found : session.shell.functions.find? first.text = some body) (rest : List Word) (line : Int32)
    (waiting : Waiting .words) :
    Config.callee? ⟨.words line (first :: rest), waiting, session⟩ = some (.function first.text) := by
  have command : Shell.assignments? (first :: rest) = none :=
    Shell.assignments?_eq_none List.mem_cons_self (Word.assignment?_of_isIdentifier identifier)
  have expanded := session.shell.expandWords_cons first rest
  rw [session.shell.expandWord_of_isIdentifier identifier] at expanded
  simp [Config.callee?, command, expanded, calleeOf, found]

/-- The calls of a run, all of functions, of which each starts a body but for the last one. -/
structure Cut (shell : Shell) (names : Set String) (moments : List Config) (called : List String)
    (refused : String) (bodies : List Command) : Prop where
  callees : moments.filterMap Config.callee? = (called ++ [refused]).map .function
  started : moments.filterMap Config.startedBody? = bodies
  found : called.map shell.functions.find? = bodies.map some
  closed : ∀ name ∈ called ++ [refused], name ∈ names

variable {names : Set String}

theorem exists_call [Script.Language] {session : Session} (closed : session.shell.Closed names)
    {command : Command} (calls : command.Calls session.shell names) (waiting : Waiting .command) :
    ∃ (looking : Config) (name : String) (body : Command) (arguments : List String),
      step ⟨.command command, waiting, session⟩ = some looking ∧
      step looking =
        some (startFunction name body arguments (.command command.inverted waiting) session) ∧
      looking.callee? = some (.function name) ∧ looking.startedBody? = none ∧ name ∈ names ∧
      session.shell.functions.find? name = some body ∧ body.Calls session.shell names := by
  obtain ⟨first, rest, words, member⟩ := calls.first
  obtain ⟨body, found, bodyCalls⟩ := closed.bodies first.text member
  have identifier := closed.identifiers first.text member
  have begun : step ⟨.command command, waiting, session⟩ =
      some ⟨.words command.line (first :: rest), .command command.inverted waiting, session⟩ := by
    rw [← words]
    exact congrArg some (startCommand_plain calls.shape calls.direct waiting)
  have callee := callee?_function identifier found rest command.line
    (.command command.inverted waiting)
  obtain ⟨started, arguments, same, looked⟩ := step_of_callee callee
  obtain rfl := Option.some.inj (same.symm.trans found)
  exact ⟨_, first.text, started, arguments, begun, looked, callee, rfl, member, found, bodyCalls⟩

theorem path_leave [Script.Language] (session : Session) (arguments : List String) (inverted : Bool)
    (waiting : Waiting .command) (refused : String) (status : Status) :
    let entered : Session := { session with shell := session.shell.enterFunction arguments }
    let outer := if inverted then status.inverted else status
    ∃ left : Session,
      Path ((Waiting.function (.command inverted waiting)).hear status (entered.cut refused status))
        [(Waiting.command inverted waiting).hear status left,
          waiting.hear outer (session.cut refused outer)]
        (waiting.hear outer (session.cut refused outer)) :=
  ⟨_, .first rfl (.first rfl (.refl _))⟩

/-- A command that calls one of the functions ends when as many of them have started as the limit leaves. -/
theorem exists_cut [Script.Language] {session : Session} (closed : session.shell.Closed names)
    {command : Command} (calls : command.Calls session.shell names) (waiting : Waiting .command)
    {left : Nat} (room : session.shell.depth + left = session.shell.settings.maxCallDepth.toNat) :
    ∃ moments called refused bodies,
      Path ⟨.command command, waiting, session⟩ moments
        (waiting.hear (refusedStatus (command :: bodies))
          (session.cut refused (refusedStatus (command :: bodies)))) ∧
      Cut session.shell names moments called refused bodies ∧ called.length = left := by
  -- Each call takes one of what is left of the limit.
  induction left generalizing command waiting session with
  | zero =>
      obtain ⟨looking, name, body, arguments, begun, looked, callee, noBody, member, _, _⟩ :=
        exists_call closed calls waiting
      let complained := (Execution.refuseCall name session.shell.settings.maxCallDepth).after session
      have refused : startFunction name body arguments (.command command.inverted waiting) session =
          (Waiting.command command.inverted waiting).hear .failure complained := by
        rw [startFunction, if_pos (by omega)]
        rfl
      have ended : step ((Waiting.command command.inverted waiting).hear .failure complained) =
          some (waiting.hear (refusedStatus [command]) (session.cut name (refusedStatus [command]))) := by
        rw [refusedStatus_cons]
        rfl
      rw [refused] at looked
      refine ⟨_, [], name, [], .first begun (.first looked (.first ended (.refl _))), ?_, rfl⟩
      constructor
      · simp [callee]
      · simp [noBody]
      · rfl
      · simpa using member
  | succ left ih =>
      obtain ⟨looking, name, body, arguments, begun, looked, callee, noBody, member, found, bodyCalls⟩ :=
        exists_call closed calls waiting
      let entered : Session := { session with shell := session.shell.enterFunction arguments }
      let starting : Config := ⟨.command body, .function (.command command.inverted waiting), entered⟩
      have started : startFunction name body arguments (.command command.inverted waiting) session =
          starting := by
        rw [startFunction, if_neg (by omega)]
      have noCallee : starting.callee? = none := rfl
      have starts : starting.startedBody? = some body := rfl
      have less : entered.shell.depth + left = entered.shell.settings.maxCallDepth.toNat := by
        change session.shell.depth + 1 + left = session.shell.settings.maxCallDepth.toNat
        omega
      obtain ⟨moments, called, refused, bodies, inside, cut, count⟩ :=
        ih (closed.enterFunction arguments) (bodyCalls.enterFunction arguments)
          (.function (.command command.inverted waiting)) less
      obtain ⟨returned, leaves⟩ := path_leave session arguments command.inverted waiting refused
        (refusedStatus (body :: bodies))
      rw [← refusedStatus_cons] at leaves
      rw [started] at looked
      refine ⟨looking :: starting :: (moments ++ _), name :: called, refused, body :: bodies,
        .first begun (.first looked (inside.then leaves)), ?_, ?_⟩
      · constructor
        · simp [callee, noCallee, cut.callees]
        · simp [noBody, starts, cut.started]
        · rw [List.map_cons, found, List.map_cons, ← cut.found]
          rfl
        · exact List.forall_mem_cons.mpr ⟨member, cut.closed⟩
      · rw [List.length_cons, count]

end Machine

open Machine

/-- A line that calls one of some functions which call each other, whatever else they are given, comes to
an end. As many bodies are started as the limit says, and the call after them is refused: it is all that
the shell complains of. Nothing but functions is called. The status is that of the refusal, inverted as
often as the bodies say, and nothing else of the session has changed when the line has ended. -/
theorem runaway_recursion_cut [Script.Language] {session : Session} {names : Set String} {name : String}
    (closed : session.shell.Closed names) (member : name ∈ names) (outside : session.shell.depth = 0) :
    let limit := session.shell.settings.maxCallDepth
    ∃ (moments : List Config) (called : List String) (refused : String) (bodies : List Command),
      let status : Status := if bodies.countP (·.inverted) % 2 = 0 then .failure else .success
      Path (begin (.line name) session) moments
          ((.nobody : Waiting .command).await (Session.runLine name) session) ∧
        moments.filterMap Config.callee? = (called ++ [refused]).map .function ∧
        (∀ other ∈ called ++ [refused], other ∈ names) ∧
        moments.filterMap Config.startedBody? = bodies ∧
        called.map session.shell.functions.find? = bodies.map some ∧
        bodies.length = limit.toNat ∧
        Session.runLine name session =
          (status,
            { session with
              shell := session.shell.finish status
              events := session.events.push
                (.diagnostic (Execution.nestingComplaint refused limit)) }) := by
  intro limit
  have identifier := closed.identifiers name member
  obtain ⟨body, _, calls⟩ := closed.bodies name member
  let command : Command := .ofWords body.shape [plain name]
  let starting : Config := ⟨.command command, .nobody, session⟩
  have begun : step (begin (.line name) session) = some starting := step_name identifier calls.shape
  have noCallee : starting.callee? = none := rfl
  have noBody : starting.startedBody? = none := rfl
  have commandCalls : command.Calls session.shell names :=
    ⟨by rw [calls.shape, Command.shape_ofWords], Command.redirections_ofWords _ _, plain name, [],
      Command.words_ofWords _ _, member⟩
  obtain ⟨moments, called, refused, bodies, path, cut, count⟩ :=
    exists_cut closed commandCalls .nobody (by rw [outside, Nat.zero_add])
  have outermost : refusedStatus (command :: bodies) = refusedStatus bodies := by
    rw [refusedStatus_cons, Command.inverted_ofWords]
    rfl
  rw [outermost] at path
  obtain ⟨whole, ran⟩ := (Path.first begun path).whole (reaches_line 0 name .nobody session)
  refine ⟨starting :: moments, called, refused, bodies, whole, ?_, cut.closed, ?_, cut.found, ?_, ran⟩
  · rw [List.filterMap_cons_none noCallee, cut.callees]
  · rw [List.filterMap_cons_none noBody, cut.started]
  · have same := congrArg List.length cut.found
    rw [List.length_map, List.length_map, count] at same
    exact same.symm

def leftBody : Command :=
  (Command.ofWords .version3 [plain "right", plain "x"]).invert

def rightBody : Command :=
  .ofWords .version3 [plain "left", .ofText "$@"]

def seesaw : Session :=
  let shell := Shell.new { maxCallDepth := 3 }
  { Session.new {} .bare with
    shell := (shell.defineFunction "left" leftBody).defineFunction "right" rightBody }

theorem seesaw_closed : seesaw.shell.Closed {"left", "right"} where
  identifiers := by
    rintro name (rfl | rfl)
    · decide
    · decide
  bodies := by
    rintro name (rfl | rfl)
    · exact ⟨leftBody, by decide, by decide, rfl, plain "right", _, rfl, .inr rfl⟩
    · exact ⟨rightBody, by decide, by decide, rfl, plain "left", _, rfl, .inl rfl⟩

theorem runaway_recursion_cut_seesaw :
    (∃ (moments : List Config) (bodies : List Command),
      Path (begin (.line "left") seesaw) moments
          ((.nobody : Waiting .command).await (Session.runLine "left") seesaw) ∧
        moments.filterMap Config.startedBody? = bodies ∧ bodies.length = 3) ∧
      (Session.runLine "left" seesaw).1 = .failure ∧
      (Session.runLine "left" seesaw).2.events.toList =
        [.diagnostic "mini-shell: right: maximum function nesting level exceeded (3)\n"] := by
  obtain ⟨moments, _, _, bodies, path, _, _, started, _, count, _⟩ :=
    runaway_recursion_cut seesaw_closed (.inl rfl) rfl
  exact ⟨⟨moments, bodies, path, started, count⟩, by decide, by decide +kernel⟩

end ScriptedShell
