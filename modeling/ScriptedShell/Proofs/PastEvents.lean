import ScriptedShell.Session.Operation

/-!
No run looks at the events before it. It does the same whatever has happened, and only adds events of its
own.
-/

namespace ScriptedShell

namespace Session

def behind (past : Array Event) (session : Session) : Session :=
  { session with events := past ++ session.events }

def silent (session : Session) : Session :=
  { session with events := #[] }

theorem behind_silent (session : Session) : session.silent.behind session.events = session := by
  simp [behind, silent]

end Session

namespace Run

variable {α β : Type}

/-- Events before a run make no difference to it, and they stay before its own. -/
def Blind (run : Run α) : Prop :=
  ∀ past session, run (session.behind past) = (run.result session, (run.after session).behind past)

namespace Blind

theorem pure (value : α) : Blind (Pure.pure value) :=
  fun _ _ => rfl

theorem bind {run : Run α} {next : α → Run β} (head : Blind run)
    (rest : ∀ value, Blind (next value)) : Blind (run >>= next) := by
  intro past session
  rw [bind_of_eq (session.behind past) (head past session) next]
  exact rest (run.result session) past (run.after session)

theorem look {next : Session → Run α}
    (same : ∀ past session, next (session.behind past) = next session)
    (rest : ∀ session, Blind (next session)) : Blind (get >>= next) := by
  intro past session
  rw [get_bind, same]
  exact rest session past session

theorem update {f : Session → Session}
    (same : ∀ past session, f (session.behind past) = (f session).behind past) :
    Blind (modify f) := by
  intro past session
  exact congrArg (Prod.mk ()) (same past session)

theorem emit (event : Event) : Blind (Run.emit event) :=
  update fun past session => by simp [Session.behind, Array.push_append]

theorem emitText (event : String → Event) (text : String) : Blind (Run.emitText event text) := by
  unfold Run.emitText
  split
  · exact .pure ()
  · exact .emit _

theorem changeShell (f : Shell → Shell) : Blind (Run.changeShell f) :=
  update fun _ _ => rfl

theorem changeBridge (index : Nat) (f : Bridge → Bridge) : Blind (Run.changeBridge index f) :=
  update fun _ _ => rfl

end Blind

end Run

open Run

def Nested.Blind (nested : Nested) : Prop :=
  ∀ command, Run.Blind (nested command)

namespace Bridge

variable {nested : Nested}

theorem start_blind [Script.Language] (index : Nat) : Blind (start index) := by
  refine .look (fun _ _ => rfl) fun session => ?_
  split
  · exact .pure _
  · split
    · exact .pure _
    · split
      · exact .pure _
      · refine .bind (.changeBridge index _) fun _ => ?_
        split
        · exact .pure _
        · exact .bind (.changeBridge index _) fun _ => .pure _

theorem invoke_blind (blind : nested.Blind) (shape : Option RecordShape) (words : List String) :
    Blind (invoke nested shape words) := by
  unfold invoke
  split
  · exact .pure _
  · exact .bind (blind _) fun _ => .pure _

theorem reply_blind (blind : nested.Blind) (bridge : Bridge) (request : Script.HostRequest) :
    Blind (reply nested bridge request) := by
  cases request with
  | presence => exact .look (fun _ _ => rfl) fun _ => .pure _
  | register name =>
      intro past session
      have same : (session.behind past).shell = session.shell := rfl
      simp only [reply, Run.result, Run.after, get_bind, same]
      cases session.shell.registerFunction bridge.shape bridge.settings.builtinName name with
      | ok shell => rfl
      | error fault => rfl
  | getVariable name => exact .look (fun _ _ => rfl) fun _ => .pure _
  | setVariable name value => exact .changeShell fun shell => shell.assign name value
  | environment => exact .look (fun _ _ => rfl) fun _ => .pure _
  | call words => exact invoke_blind blind bridge.shape words
  | print line => exact .emit _
  | log level line => exact .emit _

theorem answer_blind (blind : nested.Blind) (index : Nat) (engine : Script.Engine)
    (request : Script.HostRequest) : Blind (answer nested index engine request) := by
  refine .bind (.update fun _ _ => rfl) fun _ => ?_
  refine .look (fun _ _ => rfl) fun session => ?_
  refine .bind (reply_blind blind _ request) fun reply => ?_
  exact .look (fun _ _ => rfl) fun _ => .pure _

theorem conduct_blind {α : Type} (blind : nested.Blind) (index : Nat)
    (dialogue : Script.Dialogue α) : Blind (dialogue.conduct (answer nested index)) := by
  induction dialogue with
  | done result => exact .pure result
  | ask engine request next ih =>
      exact .bind (answer_blind blind index engine request) fun replied => ih replied.1 replied.2

theorem enter_blind (index : Nat) : Blind (enter index) := by
  refine .look (fun _ _ => rfl) fun session => ?_
  dsimp only
  split
  · exact .pure _
  · split
    · exact .pure _
    · exact .bind (.update fun _ _ => rfl) fun _ => .pure _

theorem converse_blind {α : Type} (blind : nested.Blind) (index : Nat)
    (dialogue : Script.Dialogue (Except Fault α × Script.Engine)) :
    Blind (converse nested index dialogue) := by
  refine .bind (conduct_blind blind index dialogue) fun ended => ?_
  exact .bind (.update fun _ _ => rfl) fun _ => .pure _

theorem load_blind [Script.Language] (blind : nested.Blind) (index : Nat) (path : String) :
    Blind (load nested index path) := by
  refine .bind (start_blind index) fun started => ?_
  split
  · exact .pure _
  · refine .bind (enter_blind index) fun entered => ?_
    split
    · exact .pure _
    · exact .look (fun _ _ => rfl) fun session => converse_blind blind index _

theorem call_blind [Script.Language] (blind : nested.Blind) (index : Nat) (function : String)
    (words : List Word) : Blind (call nested index function words) := by
  refine .bind (enter_blind index) fun entered => ?_
  split
  · exact .pure _
  · refine .bind (.emit _) fun _ => ?_
    exact .bind (converse_blind blind index _) fun _ => .pure _

theorem perform_blind [Script.Language] (blind : nested.Blind) (index : Nat) (request : BridgeRequest) :
    Blind (perform nested index request) := by
  cases request with
  | start => exact .bind (start_blind index) fun _ => .pure _
  | load path => exact .bind (load_blind blind index path) fun _ => .pure _
  | call function arguments => exact call_blind blind index function arguments

theorem report_blind (index : Nat) (result : Except Fault Status) : Blind (report index result) := by
  cases result with
  | ok status => exact .pure status
  | error fault => exact .look (fun _ _ => rfl) fun _ => .bind (.emit _) fun _ => .pure _

theorem runWords_blind [Script.Language] (blind : nested.Blind) (index : Nat) (words : List Word) :
    Blind (runWords nested index words) := by
  unfold runWords
  split
  · exact .bind (.pure _) fun _ => report_blind index _
  · exact .bind (perform_blind blind index _) fun _ => report_blind index _

end Bridge

namespace Execution

variable {nested : Nested}

theorem finish_blind (status : Status) : Blind (finish status) :=
  .bind (.changeShell _) fun _ => .pure status

theorem refuse_blind (complaint : String) : Blind (refuse complaint) :=
  .bind (.emit _) fun _ => finish_blind .failure

theorem callFunction_blind (blind : nested.Blind) (name : String) (body : Command)
    (arguments : List String) : Blind (callFunction nested name body arguments) := by
  refine .look (fun _ _ => rfl) fun session => ?_
  split
  · exact .bind (.emit _) fun _ => .pure _
  · refine .bind (.changeShell _) fun _ => ?_
    refine .bind (blind body) fun status => ?_
    exact .bind (.changeShell _) fun _ => .pure status

theorem runExtension_blind [Script.Language] (blind : nested.Blind) (words : List Word)
    (extension : Extension) : Blind (runExtension nested words extension) := by
  cases extension with
  | bridge index => exact Bridge.runWords_blind blind index words
  | recorder name status => exact .bind (.emit _) fun _ => .pure status

theorem runInternal?_blind {name : String} {arguments : List String} {run : Run Status}
    (known : runInternal? name arguments = some run) : Blind run := by
  unfold runInternal? at known
  split at known
  · cases known
    exact .pure Status.success
  split at known
  · cases known
    exact .pure Status.failure
  split at known
  · cases known
    exact .bind (.emit _) fun _ => .pure Status.success
  · contradiction

theorem runProgram_blind (line : Int32) (name : String) (arguments : List String) :
    Blind (runProgram line name arguments) := by
  refine .look (fun _ _ => rfl) fun session => ?_
  split
  · refine .bind (.emit _) fun _ => ?_
    refine .bind (.emitText _ _) fun _ => ?_
    exact .bind (.emitText _ _) fun _ => .pure _
  · exact .bind (.emit _) fun _ => .pure _

theorem runFields_blind [Script.Language] (blind : nested.Blind) (line : Int32) (fields : List String) :
    Blind (runFields nested line fields) := by
  cases fields with
  | nil => exact .pure _
  | cons name arguments =>
      refine .look (fun _ _ => rfl) fun session => ?_
      split
      · exact callFunction_blind blind name _ arguments
      · split
        · exact runExtension_blind blind _ _
        · split
          · rename_i known
            exact runInternal?_blind known
          · exact runProgram_blind line name arguments

theorem runWords_blind [Script.Language] (blind : nested.Blind) (line : Int32) (words : List Word) :
    Blind (runWords nested line words) := by
  unfold runWords
  split
  · exact .bind (.changeShell _) fun _ => .pure _
  · exact .look (fun _ _ => rfl) fun session => runFields_blind blind line _

theorem executeWith_blind [Script.Language] (blind : nested.Blind) (command : Command) :
    Blind (executeWith nested command) := by
  refine .look (fun _ _ => rfl) fun session => ?_
  split
  · exact refuse_blind _
  · exact .bind (runWords_blind blind _ _) fun _ => finish_blind _

end Execution

theorem execute_blind [Script.Language] (bound : Nat) : Nested.Blind (execute bound) := by
  induction bound with
  | zero => exact fun _ => .bind (.emit _) fun _ => .pure _
  | succ bound ih => exact Execution.executeWith_blind ih

end ScriptedShell
