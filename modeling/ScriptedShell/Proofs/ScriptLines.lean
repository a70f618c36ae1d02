import ScriptedShell.Proofs.PastEvents
import ScriptedShell.Proofs.RecordShapes
import ScriptedShell.Script.Standard

/-!
Scripts and their lines. To run a script is to run its lines one after the other; the number of a line is
told in diagnostics only. `Run.Marks` relates the run of a line in a script to the run of the line alone.
-/

namespace ScriptedShell

def Shell.lineStart (number : Nat) : String :=
  Shell.name ++ ": line " ++ toString number ++ ": "

/-- An event of a line in a script, and what it is if the line runs alone. -/
inductive Event.Marked (number : Nat) : Event → Event → Prop where
  | same (event : Event) : Marked number event event
  | line (text : String) :
      Marked number (.diagnostic (Shell.lineStart number ++ text))
        (.diagnostic (Shell.name ++ ": " ++ text))

theorem Event.Marked.silent_or_same {number : Nat} {scripted alone : Event}
    (marked : scripted.Marked number alone) :
    scripted = alone ∨ scripted.isDiagnostic = true ∧ alone.isDiagnostic = true := by
  cases marked with
  | same => exact .inl rfl
  | line => exact .inr ⟨rfl, rfl⟩

structure Session.Marked (number : Nat) (past : List Event × List Event)
    (scripted alone : Session) : Prop where
  silent : scripted.silent = alone.silent
  events : Event.Since (Event.Marked number) past scripted.events alone.events

theorem Session.shell_eq_of_silent {scripted alone : Session}
    (silent : scripted.silent = alone.silent) : scripted.shell = alone.shell :=
  (congrArg shell silent :)

namespace Run

variable {α β : Type} {number : Nat}

/-- Started in sessions that differ in their events, the runs end with the same result in sessions that
differ in their events, and those of the runs differ in marks of a line only. -/
def Marks (number : Nat) (scripted alone : Run α) : Prop :=
  ∀ past, Relates (Session.Marked number past) scripted alone

namespace Marks

theorem of_blind {run : Run α} (blind : Blind run) : Marks number run run := by
  intro past first second marked
  have scripted := blind first.events first.silent
  have alone := blind second.events first.silent
  rw [first.behind_silent] at scripted
  rw [marked.silent, second.behind_silent] at alone
  rw [result, result, after, after, scripted, alone, marked.silent]
  exact ⟨rfl, rfl, marked.events.append .same _⟩

theorem bind {scripted alone : Run α} {scriptedNext aloneNext : α → Run β}
    (head : Marks number scripted alone)
    (rest : ∀ value, Marks number (scriptedNext value) (aloneNext value)) :
    Marks number (scripted >>= scriptedNext) (alone >>= aloneNext) :=
  fun past => Relates.bind (head past) fun value => rest value past

theorem look {scripted alone : Session → Run α}
    (rest : ∀ first second : Session, first.silent = second.silent →
      Marks number (scripted first) (alone second)) :
    Marks number (get >>= scripted) (get >>= alone) :=
  fun past => Relates.look fun first second marked => rest first second marked.silent past

theorem emit {scripted alone : Event} (marked : scripted.Marked number alone) :
    Marks number (Run.emit scripted) (Run.emit alone) :=
  fun _ _ _ sessions => ⟨rfl, sessions.silent, sessions.events.push marked⟩

end Marks

end Run

open Run

section

variable {nested : Nested} {line : Int32} {number : Nat}

theorem Event.Marked.start (numbered : Shell.diagnosticStart line = Shell.lineStart number)
    (text : String) :
    Event.Marked number (.diagnostic (Shell.diagnosticStart line ++ text))
      (.diagnostic (Shell.diagnosticStart 0 ++ text)) := by
  rw [numbered]
  exact .line text

namespace Execution

theorem refuse_marks (numbered : Shell.diagnosticStart line = Shell.lineStart number)
    (text : String) :
    Marks number (refuse (Shell.diagnosticStart line ++ text))
      (refuse (Shell.diagnosticStart 0 ++ text)) := by
  refine .bind (.emit ?_) fun _ => .of_blind (finish_blind .failure)
  rw [String.append_assoc, String.append_assoc]
  exact .start numbered (text ++ "\n")

theorem runProgram_marks (numbered : Shell.diagnosticStart line = Shell.lineStart number)
    (name : String) (arguments : List String) :
    Marks number (runProgram line name arguments) (runProgram 0 name arguments) := by
  refine .look fun first second silent => ?_
  have files : first.files = second.files := (congrArg Session.files silent :)
  rw [files, Session.shell_eq_of_silent silent]
  cases Program.start second.files name arguments second.shell.bindings.exports with
  | ok result =>
      refine .of_blind (.bind (.emit _) fun _ => ?_)
      refine .bind (.emitText _ _) fun _ => ?_
      exact .bind (.emitText _ _) fun _ => .pure _
  | error error =>
      refine .bind (.emit ?_) fun _ => .of_blind (.pure _)
      simp only [String.append_assoc]
      exact .start numbered _

theorem runFields_marks [Script.Language] (numbered : Shell.diagnosticStart line = Shell.lineStart number)
    (blind : nested.Blind) (fields : List String) :
    Marks number (runFields nested line fields) (runFields nested 0 fields) := by
  cases fields with
  | nil => exact .of_blind (.pure Status.success)
  | cons name arguments =>
      refine .look fun first second silent => ?_
      rw [Session.shell_eq_of_silent silent]
      cases second.shell.functions.find? name with
      | some body => exact .of_blind (callFunction_blind blind name body arguments)
      | none =>
          cases second.shell.extensions.find? name with
          | some extension => exact .of_blind (runExtension_blind blind _ extension)
          | none =>
              cases known : runInternal? name arguments with
              | some run => simpa only [known] using .of_blind (runInternal?_blind known)
              | none => simpa only [known] using runProgram_marks numbered name arguments

theorem runWords_marks [Script.Language] (numbered : Shell.diagnosticStart line = Shell.lineStart number)
    (blind : nested.Blind) (words : List Word) :
    Marks number (runWords nested line words) (runWords nested 0 words) := by
  unfold runWords
  cases Shell.assignments? words with
  | some assignments => exact .of_blind (.bind (.changeShell _) fun _ => .pure Status.success)
  | none =>
      refine .look fun first second silent => ?_
      rw [Session.shell_eq_of_silent silent]
      exact runFields_marks numbered blind (second.shell.expandWords words)

theorem executeWith_marks [Script.Language] (numbered : Shell.diagnosticStart line = Shell.lineStart number)
    (blind : nested.Blind) {command : Command} (direct : command.redirections = []) :
    Marks number (executeWith nested (command.atLine line)) (executeWith nested (command.atLine 0)) := by
  refine .look fun first second silent => ?_
  have refused : refusal? first.shell (command.atLine line) =
      refusal? second.shell (command.atLine 0) := by
    simp [refusal?, direct, Session.shell_eq_of_silent silent]
  rw [refused]
  cases refusal? second.shell (command.atLine 0) with
  | some complaint => exact .of_blind (refuse_blind complaint)
  | none =>
      simp only [Command.line_atLine, Command.words_atLine, Command.inverted_atLine]
      refine .bind (runWords_marks numbered blind command.words) fun status => ?_
      exact .of_blind (finish_blind _)

end Execution

theorem Command.redirections_of_make {shape : Option RecordShape} {words : List Word}
    {command : Command} (made : Command.make shape words = .ok command) :
    command.redirections = [] := by
  unfold make at made
  split at made
  · cases made
    exact redirections_ofWords _ words
  · contradiction

namespace Session

theorem executeCommand_marks [Script.Language]
    (numbered : Shell.diagnosticStart line = Shell.lineStart number) (command : Command)
    (direct : command.redirections = []) :
    Marks number (executeCommand (command.atLine line)) (executeCommand (command.atLine 0)) := by
  refine .look fun first second silent => ?_
  have bound : first.nestingBound = second.nestingBound := (congrArg nestingBound silent :)
  rw [bound]
  cases second.nestingBound with
  | zero => exact .of_blind (execute_blind 0 (command.atLine line))
  | succ bound => exact Execution.executeWith_marks numbered (execute_blind bound) direct

theorem runNumbered_marks [Script.Language] (numbered : Shell.diagnosticStart line = Shell.lineStart number)
    (text : String) : Marks number (runNumbered line text) (runLine text) := by
  refine .look fun first second silent => ?_
  rw [shell_eq_of_silent silent]
  unfold readLine
  cases lexLine text with
  | error error => exact Execution.refuse_marks numbered error.message
  | ok words =>
      cases words with
      | nil => exact .of_blind (.pure second.shell.lastStatus)
      | cons first rest =>
          simp only
          cases made : Command.make second.shell.shape (splitInversion (first :: rest)).2 with
          | error fault => exact Execution.refuse_marks numbered fault.message
          | ok command =>
              have direct : command.redirections = [] := Command.redirections_of_make made
              simp only
              split
              · rw [Command.invert_atLine, Command.invert_atLine]
                exact executeCommand_marks numbered command.invert
                  (command.redirections_invert.trans direct)
              · exact executeCommand_marks numbered command direct

end Session

end

namespace Session

theorem diagnosticStart_lineNumber {number : Nat} (positive : 0 < number) :
    Shell.diagnosticStart (lineNumber number) = Shell.lineStart (min number lastLineNumber) := by
  have bounded : min number lastLineNumber < 2 ^ 31 := by
    have most : lastLineNumber < 2 ^ 31 := by decide
    omega
  have counted : (lineNumber number).toInt = (min number lastLineNumber : Nat) :=
    Int32.toInt_ofNat_of_lt bounded
  have counts : 0 < lineNumber number := by
    have least : 0 < lastLineNumber := by decide
    rw [Int32.lt_iff_toInt_lt, counted]
    change (0 : Int) < _
    omega
  rw [Shell.diagnosticStart, if_pos counts, counted]
  rfl

def runEach [Script.Language] : List String → Run Unit
  | [] => return
  | line :: rest => do
    let _ ← runLine line
    runEach rest

def runEachLine [Script.Language] (source : String) : Run Status := do
  runEach (linesOf source)
  let session ← get
  return session.shell.lastStatus

/-- The sessions are the same but for their events, and these are the same but for diagnostics. -/
structure Agree (scripted alone : Session) : Prop where
  silent : scripted.silent = alone.silent
  told : scripted.events.toList.filter (!·.isDiagnostic) =
    alone.events.toList.filter (!·.isDiagnostic)

def Adds (number : Nat) (before after : Session × Session) : Prop :=
  Event.Since (Event.Marked number) (before.1.events.toList, before.2.events.toList)
    after.1.events after.2.events

variable {scripted alone : Session}

theorem runNumbered_agrees [Script.Language] (agree : scripted.Agree alone) {number : Nat}
    (positive : 0 < number) (line : String) :
    let after := ((runNumbered (lineNumber number) line).after scripted, (runLine line).after alone)
    after.1.Agree after.2 ∧ Adds (min number lastLineNumber) (scripted, alone) after := by
  intro after
  have marks := runNumbered_marks (diagnosticStart_lineNumber positive) line
  have start : scripted.Marked (min number lastLineNumber)
      (scripted.events.toList, alone.events.toList) alone :=
    ⟨agree.silent, .refl _ _⟩
  obtain ⟨_, silent, added⟩ := marks _ scripted alone start
  refine ⟨⟨silent, ?_⟩, added⟩
  obtain ⟨scriptedSince, aloneSince, scriptedEvents, aloneEvents, since⟩ := added
  have told := Event.filter_eq_of_forall₂ (fun _ _ marked => marked.silent_or_same) since
  rw [scriptedEvents, aloneEvents, List.filter_append, List.filter_append, agree.told, told]

theorem runLines_agree [Script.Language] (agree : scripted.Agree alone) {number : Nat} (positive : 0 < number)
    (lines : List String) :
    ((runLines number lines).after scripted).Agree ((runEach lines).after alone) := by
  induction lines generalizing number scripted alone with
  | nil => exact agree
  | cons line rest ih =>
      have once := (runNumbered_agrees agree positive line).1
      exact ih once (Nat.succ_pos number)

theorem runLines_append [Script.Language] (number : Nat) (before rest : List String) :
    runLines number (before ++ rest) =
      (do runLines number before; runLines (number + before.length) rest) := by
  induction before generalizing number with
  | nil => rfl
  | cons line before ih =>
      have count : number + 1 + before.length = number + (line :: before).length := by
        rw [List.length_cons]
        omega
      simp only [List.cons_append, runLines, ih, count, bind_assoc]

theorem runEach_append [Script.Language] (before rest : List String) :
    runEach (before ++ rest) = (do runEach before; runEach rest) := by
  induction before with
  | nil => rfl
  | cons line before ih => simp only [List.cons_append, runEach, ih, bind_assoc]

end Session

open Session

/-- To run a script is to run its lines one after the other, each by itself. Both end with the same last
status, and after as many lines the sessions are the same, and so is all that can be seen from outside but
for the diagnostics: there the script tells the number of the line that a diagnostic comes from, up to the
greatest line number, and nothing else is different. -/
theorem script_runs_its_lines [Script.Language] (source : String) (session : Session) :
    let lines := linesOf source
    let scripted := fun count => (runLines 1 (lines.take count)).after session
    let alone := fun count => (runEach (lines.take count)).after session
    (runScript source).result session = (runEachLine source).result session ∧
      (runScript source).after session = scripted lines.length ∧
      (runEachLine source).after session = alone lines.length ∧
      ∀ count, (scripted count).Agree (alone count) ∧
        Adds (min (count + 1) lastLineNumber) (scripted count, alone count)
          (scripted (count + 1), alone (count + 1)) := by
  intro lines scripted alone
  have agree (count : Nat) : (scripted count).Agree (alone count) :=
    runLines_agree ⟨rfl, rfl⟩ Nat.one_pos (lines.take count)
  have scriptEnds : (runScript source).after session = scripted lines.length := by
    simp only [scripted, List.take_length]
    rfl
  have eachEnds : (runEachLine source).after session = alone lines.length := by
    simp only [alone, List.take_length]
    rfl
  have statuses : (runScript source).result session = (runEachLine source).result session := by
    have last := congrArg Shell.lastStatus (shell_eq_of_silent (agree lines.length).silent)
    rwa [← scriptEnds, ← eachEnds] at last
  refine ⟨statuses, scriptEnds, eachEnds, fun count => ⟨agree count, ?_⟩⟩
  cases found : lines[count]? with
  | none =>
      have beyond : lines.take (count + 1) = lines.take count := by
        rw [List.take_add_one, found]
        simp
      simp only [scripted, alone, beyond]
      exact .refl _ _
  | some line =>
      have inside : lines.take (count + 1) = lines.take count ++ [line] := by
        rw [List.take_add_one, found]
        rfl
      have bound : count < lines.length := (List.getElem?_eq_some_iff.mp found).1
      have taken : (lines.take count).length = count := List.length_take_of_le (Nat.le_of_lt bound)
      have number : 1 + (lines.take count).length = count + 1 := by omega
      simp only [scripted, alone, inside, runLines_append, runEach_append, after_bind, number]
      exact (runNumbered_agrees (agree count) (Nat.succ_pos count) line).2

def redirecting : Session :=
  let body : Command :=
    .version3 { words := [.literal "true"], line := 7, redirections := [⟨1, "f"⟩] }
  { Session.new {} .bare with shell := (Shell.new {}).defineFunction "f" body }

theorem script_runs_its_lines_redirecting :
    let source := "echo a\n\n'b\n! f"
    ((runScript source).after redirecting).Agree ((runEachLine source).after redirecting) ∧
      ((runScript source).after redirecting).events.toList =
        [.output "a\n",
          .diagnostic "mini-shell: line 3: unexpected EOF while looking for `''\n",
          .diagnostic "mini-shell: line 7: redirections are not supported\n"] ∧
      ((runEachLine source).after redirecting).events.toList =
        [.output "a\n", .diagnostic "mini-shell: unexpected EOF while looking for `''\n",
          .diagnostic "mini-shell: line 7: redirections are not supported\n"] := by
  intro source
  obtain ⟨_, scriptEnds, eachEnds, lines⟩ := script_runs_its_lines source redirecting
  refine ⟨?_, by decide +kernel, by decide +kernel⟩
  rw [scriptEnds, eachEnds]
  exact (lines _).1

end ScriptedShell
