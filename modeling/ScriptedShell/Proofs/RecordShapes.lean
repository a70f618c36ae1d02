import ScriptedShell.Proofs.TwoRuns
import ScriptedShell.Script.Standard
import ScriptedShell.Session.Operation

/-!
The two shapes of records. A shell that runs records of the one shape and a shell that runs the same
records in the other shape cannot be told apart, but by the names of the shapes where one of them refuses
a record. `Run.Mirrors` relates what the two do, and every piece of a run is shown to be related to
itself.
-/

namespace ScriptedShell

def RecordShape.other : RecordShape → RecordShape
  | .version2 => .version3
  | .version3 => .version2

theorem RecordShape.other_other (shape : RecordShape) : shape.other.other = shape := by
  cases shape <;> rfl

namespace Command

/-- The record of the other shape with the same fields. -/
def mirrored : Command → Command
  | .version2 ⟨inverted, words, redirections, line⟩ => .version3 ⟨inverted, line, words, redirections⟩
  | .version3 ⟨inverted, line, words, redirections⟩ => .version2 ⟨inverted, words, redirections, line⟩

variable (command : Command)

/-! The arms of everything that is asked of a record agree, and so do those of every change of one. -/

@[simp] theorem shape_mirrored : command.mirrored.shape = command.shape.other := by
  cases command <;> rfl

@[simp] theorem words_mirrored : command.mirrored.words = command.words := by
  cases command <;> rfl

@[simp] theorem inverted_mirrored : command.mirrored.inverted = command.inverted := by
  cases command <;> rfl

@[simp] theorem line_mirrored : command.mirrored.line = command.line := by
  cases command <;> rfl

@[simp] theorem redirections_mirrored : command.mirrored.redirections = command.redirections := by
  cases command <;> rfl

theorem mirrored_ofWords (shape : RecordShape) (words : List Word) :
    (ofWords shape words).mirrored = ofWords shape.other words := by
  cases shape <;> rfl

theorem mirrored_invert : command.invert.mirrored = command.mirrored.invert := by
  cases command <;> rfl

theorem mirrored_atLine (number : Int32) :
    (command.atLine number).mirrored = command.mirrored.atLine number := by
  cases command <;> rfl

end Command

namespace Execution

def shapeComplaint (own : RecordShape) : String :=
  Shell.name ++ ": refusing " ++ own.other.name ++ " command record on a " ++ own.name ++ " host"

end Execution

def Event.isDiagnostic : Event → Bool
  | .diagnostic _ => true
  | _ => false

inductive Event.Mirrors (own : RecordShape) : Event → Event → Prop
  | same (event : Event) : Mirrors own event event
  | refused : Mirrors own (.diagnostic (Execution.shapeComplaint own ++ "\n"))
      (.diagnostic (Execution.shapeComplaint own.other ++ "\n"))

structure Shell.Mirrors (own : RecordShape) (left right : Shell) : Prop where
  leftShape : left.shape = some own
  rightShape : right.shape = some own.other
  limit : right.settings.maxCallDepth = left.settings.maxCallDepth
  bindings : right.bindings = left.bindings
  functions : ∀ name, right.functions.find? name = (left.functions.find? name).map Command.mirrored
  extensions : right.extensions = left.extensions
  recorders : ∀ name extension, left.extensions.find? name = some extension →
    ∃ label status, extension = .recorder label status
  frames : right.frames = left.frames
  depth : right.depth = left.depth
  lastStatus : right.lastStatus = left.lastStatus

/-- The sessions mirror each other, and so do the events in which they have gone on from a past each. -/
structure Session.Mirrors (own : RecordShape) (past : List Event × List Event)
    (left right : Session) : Prop where
  shell : left.shell.Mirrors own right.shell
  bridges : right.bridges = left.bridges
  files : right.files = left.files
  events : ∃ leftSince rightSince, left.events.toList = past.1 ++ leftSince ∧
    right.events.toList = past.2 ++ rightSince ∧
    List.Forall₂ (Event.Mirrors own) leftSince rightSince

namespace Shell.Mirrors

variable {own : RecordShape} {left right : Shell}

theorem parameter (mirrors : left.Mirrors own right) : right.parameter = left.parameter := by
  funext name
  simp only [Shell.parameter, argumentAt, arguments, mirrors.bindings, mirrors.frames,
    mirrors.lastStatus]

theorem expandText (mirrors : left.Mirrors own right) (text : String) :
    right.expandText text = left.expandText text := by
  rw [Shell.expandText, Shell.expandText, mirrors.parameter]

theorem expandWords (mirrors : left.Mirrors own right) (words : List Word) :
    right.expandWords words = left.expandWords words := by
  unfold Shell.expandWords
  congr 1
  funext word
  rw [Shell.expandWord, Shell.expandWord, mirrors.expandText, Shell.arguments, Shell.arguments,
    mirrors.frames]

theorem assign (mirrors : left.Mirrors own right) (name value : String) :
    (left.assign name value).Mirrors own (right.assign name value) :=
  { mirrors with bindings := by simp only [Shell.assign, mirrors.bindings] }

theorem assignAll (mirrors : left.Mirrors own right) (assignments : List (String × String)) :
    (left.assignAll assignments).Mirrors own (right.assignAll assignments) := by
  induction assignments generalizing left right with
  | nil => exact mirrors
  | cons first rest ih =>
      have once := mirrors.assign first.1 (left.expandText first.2)
      have same : right.assignAll (first :: rest) =
          (right.assign first.1 (left.expandText first.2)).assignAll rest := by
        rw [← mirrors.expandText]
        rfl
      rw [same]
      exact ih once

theorem defineFunction (mirrors : left.Mirrors own right) (name : String) (body : Command) :
    (left.defineFunction name body).Mirrors own (right.defineFunction name body.mirrored) :=
  { mirrors with
    functions := by
      intro other
      simp only [Shell.defineFunction, Table.find?_insert, mirrors.functions]
      split <;> rfl }

theorem enterFunction (mirrors : left.Mirrors own right) (texts : List String) :
    (left.enterFunction texts).Mirrors own (right.enterFunction texts) :=
  { mirrors with
    frames := by simp only [Shell.enterFunction, mirrors.frames]
    depth := by simp only [Shell.enterFunction, mirrors.depth] }

theorem leaveFunction (mirrors : left.Mirrors own right) :
    left.leaveFunction.Mirrors own right.leaveFunction :=
  { mirrors with
    frames := by simp only [Shell.leaveFunction, mirrors.frames]
    depth := by simp only [Shell.leaveFunction, mirrors.depth] }

theorem finish (mirrors : left.Mirrors own right) (status : Status) :
    (left.finish status).Mirrors own (right.finish status) :=
  { mirrors with lastStatus := rfl }

end Shell.Mirrors

namespace Run

variable {α β : Type} {own : RecordShape}

/-- Started in sessions that mirror each other, two runs give the same result and end in sessions that
mirror each other. -/
def Mirrors (own : RecordShape) (left right : Run α) : Prop :=
  ∀ (past : List Event × List Event) (first second : Session), first.Mirrors own past second →
    right.result second = left.result first ∧
      (left.after first).Mirrors own past (right.after second)

namespace Mirrors

theorem pure (value : α) : Mirrors own (Pure.pure value) (Pure.pure value) :=
  fun _ _ _ mirrors => ⟨rfl, mirrors⟩

theorem bind {left right : Run α} {leftNext rightNext : α → Run β}
    (head : Mirrors own left right) (rest : ∀ value, Mirrors own (leftNext value) (rightNext value)) :
    Mirrors own (left >>= leftNext) (right >>= rightNext) :=
  fun past => Relates.bind (head past) fun value => rest value past

theorem look {left right : Session → Run α}
    (rest : ∀ past first second, Session.Mirrors own past first second →
      Mirrors own (left first) (right second)) :
    Mirrors own (get >>= left) (get >>= right) :=
  fun past => Relates.look fun first second mirrors => rest past first second mirrors past

theorem emit {left right : Event} (mirrors : left.Mirrors own right) :
    Mirrors own (Run.emit left) (Run.emit right) :=
  fun _ _ _ alike => ⟨rfl, { alike with events := Event.Since.push alike.events mirrors }⟩

theorem emitText (event : String → Event) (text : String) :
    Mirrors own (Run.emitText event text) (Run.emitText event text) := by
  unfold Run.emitText
  split
  · exact .pure ()
  · exact .emit (.same _)

theorem changeShell {left right : Shell → Shell}
    (each : ∀ first second : Shell, first.Mirrors own second →
      (left first).Mirrors own (right second)) :
    Mirrors own (Run.changeShell left) (Run.changeShell right) :=
  fun _ _ _ mirrors => ⟨rfl, { mirrors with shell := each _ _ mirrors.shell }⟩

end Mirrors

end Run

open Run

def Nested.Mirrors (own : RecordShape) (left right : Nested) : Prop :=
  ∀ command, Run.Mirrors own (left command) (right command.mirrored)

namespace Execution

variable {own : RecordShape} {left right : Nested}

theorem finish_mirrors (status : Status) : Mirrors own (finish status) (finish status) :=
  .bind (.changeShell fun _ _ mirrors => mirrors.finish status) fun _ => .pure status

theorem refuse_mirrors {complaint other : String}
    (mirrors : (Event.diagnostic (complaint ++ "\n")).Mirrors own (.diagnostic (other ++ "\n"))) :
    Mirrors own (refuse complaint) (refuse other) :=
  .bind (.emit mirrors) fun _ => finish_mirrors .failure

/-- Both shells take a record, or both refuse it for what it holds, or both refuse it for its shape. -/
theorem refusal?_mirrored {first second : Shell} (mirrors : first.Mirrors own second)
    (command : Command) :
    refusal? second command.mirrored = refusal? first command ∨
      refusal? first command = some (shapeComplaint own) ∧
        refusal? second command.mirrored = some (shapeComplaint own.other) := by
  unfold refusal?
  rw [mirrors.leftShape, mirrors.rightShape]
  by_cases same : command.shape = own
  · left
    simp [same]
  · right
    have other : command.shape = own.other := by
      revert same
      cases command.shape <;> cases own <;> decide
    have differs : own ≠ own.other := by
      cases own <;> decide
    simp [other, differs, differs.symm, RecordShape.other_other, shapeComplaint,
      shapeName, String.append_assoc]

theorem callFunction_mirrors (nested : left.Mirrors own right) (name : String) (body : Command)
    (arguments : List String) :
    Mirrors own (callFunction left name body arguments)
      (callFunction right name body.mirrored arguments) := by
  refine .look fun _ first second mirrors => ?_
  rw [mirrors.shell.limit, mirrors.shell.depth]
  split
  · exact .bind (.emit (.same _)) fun _ => .pure Status.failure
  · refine .bind (.changeShell fun _ _ shells => shells.enterFunction arguments) fun _ => ?_
    refine .bind (nested body) fun status => ?_
    exact .bind (.changeShell fun _ _ shells => shells.leaveFunction) fun _ => .pure status

theorem runInternal?_mirrors {name : String} {arguments : List String} {run : Run Status}
    (known : runInternal? name arguments = some run) : Mirrors own run run := by
  unfold runInternal? at known
  split at known
  · cases known
    exact .pure Status.success
  split at known
  · cases known
    exact .pure Status.failure
  split at known
  · cases known
    exact .bind (.emit (.same _)) fun _ => .pure Status.success
  · contradiction

theorem runProgram_mirrors (line : Int32) (name : String) (arguments : List String) :
    Mirrors own (runProgram line name arguments) (runProgram line name arguments) := by
  refine .look fun _ first second mirrors => ?_
  rw [mirrors.files, mirrors.shell.bindings]
  split
  · refine .bind (.emit (.same _)) fun _ => ?_
    refine .bind (.emitText _ _) fun _ => ?_
    exact .bind (.emitText _ _) fun _ => .pure _
  · exact .bind (.emit (.same _)) fun _ => .pure _

theorem runFields_mirrors [Script.Language] (nested : left.Mirrors own right) (line : Int32)
    (fields : List String) :
    Mirrors own (runFields left line fields) (runFields right line fields) := by
  cases fields with
  | nil => exact .pure Status.success
  | cons name arguments =>
      refine .look fun _ first second mirrors => ?_
      rw [mirrors.shell.functions, mirrors.shell.extensions]
      cases first.shell.functions.find? name with
      | some body => exact callFunction_mirrors nested name body arguments
      | none =>
          cases known : first.shell.extensions.find? name with
          | some extension =>
              obtain ⟨label, status, rfl⟩ := mirrors.shell.recorders name extension known
              exact .bind (.emit (.same _)) fun _ => .pure status
          | none =>
              cases internal : runInternal? name arguments with
              | some run => simpa only [Option.map_none, internal] using runInternal?_mirrors internal
              | none => simpa only [Option.map_none, internal] using runProgram_mirrors line name arguments

theorem runWords_mirrors [Script.Language] (nested : left.Mirrors own right) (line : Int32)
    (words : List Word) : Mirrors own (runWords left line words) (runWords right line words) := by
  unfold runWords
  cases Shell.assignments? words with
  | some assignments =>
      exact .bind (.changeShell fun _ _ shells => shells.assignAll assignments) fun _ =>
        .pure Status.success
  | none =>
      refine .look fun _ first second mirrors => ?_
      rw [mirrors.shell.expandWords]
      exact runFields_mirrors nested line (first.shell.expandWords words)

theorem executeWith_mirrors [Script.Language] (nested : left.Mirrors own right) :
    Nested.Mirrors own (executeWith left) (executeWith right) := by
  intro command
  refine .look fun _ first second mirrors => ?_
  obtain same | ⟨refused, alsoRefused⟩ := refusal?_mirrored mirrors.shell command
  · rw [same]
    cases refusal? first.shell command with
    | some complaint => exact refuse_mirrors (.same _)
    | none =>
        simp only [Command.line_mirrored, Command.words_mirrored, Command.inverted_mirrored]
        refine .bind (runWords_mirrors nested command.line command.words) fun status => ?_
        exact finish_mirrors (if command.inverted then status.inverted else status)
  · rw [refused, alsoRefused]
    exact refuse_mirrors .refused

end Execution

theorem execute_mirrors [Script.Language] (own : RecordShape) (bound : Nat) :
    Nested.Mirrors own (execute bound) (execute bound) := by
  induction bound with
  | zero => exact fun _ => .bind (.emit (.same _)) fun _ => .pure Status.failure
  | succ bound ih => exact Execution.executeWith_mirrors ih

namespace Session

variable {own : RecordShape}

theorem executeCommand_mirrors [Script.Language] (command : Command) :
    Run.Mirrors own (executeCommand command) (executeCommand command.mirrored) := by
  refine .look fun _ first second mirrors => ?_
  have bound : second.nestingBound = first.nestingBound := by
    rw [nestingBound, nestingBound, mirrors.shell.limit, mirrors.bridges]
  rw [bound]
  exact execute_mirrors own first.nestingBound command

def LineContent.mirrored : LineContent → LineContent
  | .command held => .command held.mirrored
  | content => content

theorem readLine_mirrored {first second : Shell} (mirrors : first.Mirrors own second)
    (number : Int32) (line : String) :
    readLine second number line = (readLine first number line).mirrored := by
  unfold readLine
  rw [mirrors.leftShape, mirrors.rightShape]
  split
  · rfl
  · rfl
  · simp only [Command.make, ← Command.mirrored_ofWords, ← Command.mirrored_atLine,
      LineContent.mirrored]
    split <;> simp only [Command.mirrored_invert]

theorem runNumbered_mirrors [Script.Language] (number : Int32) (line : String) :
    Run.Mirrors own (runNumbered number line) (runNumbered number line) := by
  refine .look fun _ first second mirrors => ?_
  rw [readLine_mirrored mirrors.shell]
  cases readLine first.shell number line with
  | nothing =>
      simp only [LineContent.mirrored, mirrors.shell.lastStatus]
      exact .pure first.shell.lastStatus
  | refused complaint => exact Execution.refuse_mirrors (.same _)
  | command command => exact executeCommand_mirrors command

theorem runLines_mirrors [Script.Language] (number : Nat) (lines : List String) :
    Run.Mirrors own (runLines number lines) (runLines number lines) := by
  induction lines generalizing number with
  | nil => exact .pure ()
  | cons line rest ih =>
      exact .bind (runNumbered_mirrors (lineNumber number) line) fun _ => ih (number + 1)

theorem runScript_mirrors [Script.Language] (source : String) :
    Run.Mirrors own (runScript source) (runScript source) := by
  refine .bind (runLines_mirrors 1 (linesOf source)) fun _ => ?_
  refine .look fun _ first second mirrors => ?_
  rw [mirrors.shell.lastStatus]
  exact .pure first.shell.lastStatus

end Session

inductive ShellRequest where
  | line (line : String)
  | script (source : String)
  | command (command : Command)
  | define (name : String) (body : Command)

namespace ShellRequest

def mirrored : ShellRequest → ShellRequest
  | .command asked => .command asked.mirrored
  | .define name body => .define name body.mirrored
  | request => request

def run [Script.Language] : ShellRequest → Run (Option Status)
  | .line text => some <$> Session.runLine text
  | .script source => some <$> Session.runScript source
  | .command asked => some <$> Session.executeCommand asked
  | .define name body => do
    Run.changeShell fun shell => shell.defineFunction name body
    return none

def runAll [Script.Language] : List ShellRequest → Run (List (Option Status))
  | [] => return []
  | first :: rest => do
    let status ← first.run
    let statuses ← runAll rest
    return status :: statuses

variable {own : RecordShape}

theorem run_mirrors [Script.Language] (request : ShellRequest) :
    Mirrors own request.run request.mirrored.run := by
  cases request with
  | line text => exact .bind (Session.runNumbered_mirrors 0 text) fun status => .pure (some status)
  | script source => exact .bind (Session.runScript_mirrors source) fun status => .pure (some status)
  | command asked => exact .bind (Session.executeCommand_mirrors asked) fun status => .pure (some status)
  | define name body =>
      refine .bind (.changeShell fun _ _ shells => ?_) fun _ => .pure none
      exact shells.defineFunction name body

theorem runAll_mirrors [Script.Language] (requests : List ShellRequest) :
    Mirrors own (runAll requests) (runAll (requests.map mirrored)) := by
  induction requests with
  | nil => exact .pure []
  | cons first rest ih =>
      refine .bind first.run_mirrors fun status => ?_
      exact .bind ih fun statuses => .pure (status :: statuses)

end ShellRequest

theorem Event.Mirrors.silent_or_same {own : RecordShape} {left right : Event}
    (mirrors : left.Mirrors own right) :
    left = right ∨ left.isDiagnostic = true ∧ right.isDiagnostic = true := by
  cases mirrors with
  | same => exact .inl rfl
  | refused => exact .inr ⟨rfl, rfl⟩

theorem Event.filter_eq_of_forall₂ {relation : Event → Event → Prop}
    (silent_or_same : ∀ left right, relation left right →
      left = right ∨ left.isDiagnostic = true ∧ right.isDiagnostic = true) {left right : List Event}
    (related : List.Forall₂ relation left right) :
    right.filter (!·.isDiagnostic) = left.filter (!·.isDiagnostic) := by
  induction related with
  | nil => rfl
  | cons head rest ih =>
      rw [List.filter_cons, List.filter_cons, ih]
      obtain rfl | ⟨left, right⟩ := silent_or_same _ _ head
      · rfl
      · rw [left, right]
        rfl

theorem Event.Mirrors.filter {own : RecordShape} {left right : List Event}
    (mirrors : List.Forall₂ (Event.Mirrors own) left right) :
    right.filter (!·.isDiagnostic) = left.filter (!·.isDiagnostic) :=
  filter_eq_of_forall₂ (fun _ _ each => each.silent_or_same) mirrors

/-- Shells of the two shapes that hold the same do the same, whatever they are asked for: they answer with
the same statuses, call the same recorders, start the same programs and write the same output, and each
complains of the records that the other complains of. -/
theorem shapes_do_the_same [Script.Language] {own : RecordShape} {left right : Session}
    (shells : left.shell.Mirrors own right.shell) (bridges : right.bridges = left.bridges)
    (files : right.files = left.files) (requests : List ShellRequest) :
    let leftRun := ShellRequest.runAll requests
    let rightRun := ShellRequest.runAll (requests.map ShellRequest.mirrored)
    let leftAfter := leftRun.after left
    let rightAfter := rightRun.after right
    rightRun.result right = leftRun.result left ∧
      leftAfter.shell.Mirrors own rightAfter.shell ∧
      rightAfter.bridges = leftAfter.bridges ∧ rightAfter.files = leftAfter.files ∧
      ∃ leftEvents rightEvents,
        leftAfter.events.toList = left.events.toList ++ leftEvents ∧
        rightAfter.events.toList = right.events.toList ++ rightEvents ∧
        List.Forall₂ (Event.Mirrors own) leftEvents rightEvents ∧
        rightEvents.filter (!·.isDiagnostic) = leftEvents.filter (!·.isDiagnostic) := by
  intro leftRun rightRun leftAfter rightAfter
  have start : left.Mirrors own (left.events.toList, right.events.toList) right :=
    ⟨shells, bridges, files, [], [], by simp⟩
  obtain ⟨statuses, ends⟩ := ShellRequest.runAll_mirrors requests _ left right start
  obtain ⟨leftEvents, rightEvents, leftGrown, rightGrown, mirrors⟩ := ends.events
  refine ⟨statuses, ends.shell, ends.bridges, ends.files, ?_⟩
  exact ⟨leftEvents, rightEvents, leftGrown, rightGrown, mirrors, Event.Mirrors.filter mirrors⟩

def versionForgotten (version : String) : Session :=
  let session := Session.new { version } .bare
  let shell := session.shell.extend "rec" (.recorder "rec" 3)
  { session with shell := shell.assign Shell.versionVariable "" }

theorem versionForgotten_mirrors :
    (versionForgotten "2.05b").shell.Mirrors .version2 (versionForgotten "5.2").shell where
  leftShape := by decide
  rightShape := by decide
  limit := rfl
  bindings := by rfl
  functions := fun _ => rfl
  extensions := rfl
  recorders := by
    intro name extension found
    simp only [versionForgotten, Shell.assign, Shell.extend, Table.find?_insert] at found
    split at found
    · exact ⟨"rec", 3, (Option.some.inj found).symm⟩
    · contradiction
  frames := rfl
  depth := rfl
  lastStatus := rfl

theorem shapes_do_the_same_old_and_new :
    let requests : List ShellRequest :=
      [.define "f" (.ofWords .version2 [.literal "rec", .ofText "$1"]),
        .script "! f 'a b'\nf $?", .command (.ofWords .version3 [.literal "true"])]
    let old := ShellRequest.runAll requests
    let new := ShellRequest.runAll (requests.map ShellRequest.mirrored)
    new.result (versionForgotten "5.2") = old.result (versionForgotten "2.05b") ∧
      new.result (versionForgotten "5.2") = [none, some 3, some 1] ∧
      (new.after (versionForgotten "5.2")).events.toList =
        [.recorded "rec" [.literal "a b"], .recorded "rec" [.literal "0"],
          .diagnostic
            "mini-shell: refusing version-2-shape command record on a version-3-shape host\n"] := by
  intro requests old new
  have same := shapes_do_the_same versionForgotten_mirrors rfl rfl requests
  have statuses : new.result (versionForgotten "5.2") = [none, some 3, some 1] := by decide +kernel
  refine ⟨same.1, statuses, ?_⟩
  decide +kernel

end ScriptedShell
