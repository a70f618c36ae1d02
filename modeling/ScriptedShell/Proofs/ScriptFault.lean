import ScriptedShell.Proofs.Moment

/-!
The faults that a bridge's use of its engine can end in, whatever the script does and however its host
answers.
-/

namespace ScriptedShell

/-- A script was run, or should have been, and went wrong. -/
def Fault.ofScript : Fault → Bool
  | .chunkNotLoaded _ _ | .scriptFailed _ | .unexpectedResult _ => true
  | _ => false

namespace Script

namespace Dialogue

variable {α β : Type}

def Ends (kind : α → Prop) : Dialogue α → Prop
  | .done result => kind result
  | .ask _ _ next => ∀ reply engine, (next reply engine).Ends kind

theorem ends_any (dialogue : Dialogue α) : dialogue.Ends fun _ => True := by
  induction dialogue with
  | done result => trivial
  | ask engine request next ih => exact fun reply engine => ih reply engine

theorem Ends.bind {first : α → Prop} {second : β → Prop} {dialogue : Dialogue α}
    {next : α → Dialogue β} (ends : dialogue.Ends first)
    (each : ∀ result, first result → (next result).Ends second) :
    (dialogue.bind next).Ends second := by
  induction dialogue with
  | done result => exact each result ends
  | ask engine request continuation ih => exact fun reply engine => ih reply engine (ends reply engine)

theorem Ends.mono {first second : α → Prop} {dialogue : Dialogue α} (ends : dialogue.Ends first)
    (weaker : ∀ result, first result → second result) : dialogue.Ends second := by
  induction dialogue with
  | done result => exact weaker result ends
  | ask engine request next ih => exact fun reply engine => ih reply engine (ends reply engine)

theorem Ends.conduct {kind : α → Prop} {dialogue : Dialogue α} (ends : dialogue.Ends kind)
    (answer : Engine → (request : HostRequest) → Run (request.Reply × Engine))
    (session : Session) : kind (Run.result (dialogue.conduct answer) session) := by
  induction dialogue generalizing session with
  | done result => exact ends
  | ask engine request next ih => exact ih _ _ (ends _ _) _

end Dialogue

/-- A use of an engine that fails, if at all, with such a fault. -/
def Fails {α : Type} (kind : Fault → Prop) (ended : Except Fault α × Engine) : Prop :=
  ∀ fault, ended.1 = .error fault → kind fault

section

variable {α : Type} {kind : Fault → Prop} {engine : Engine}

theorem fails_ok (value : α) : Fails kind (.ok value, engine) :=
  nofun

theorem fails_error {fault : Fault} (known : kind fault) :
    Fails kind ((.error fault, engine) : Except Fault α × Engine) := by
  rintro _ ⟨⟩
  exact known

end

theorem use_fails [Library] {α : Type} (kind : Fault → Prop) (action : Action α) {fault : Report → Fault}
    (known : ∀ report, kind (fault report)) (engine : Engine) :
    (action.use fault engine).Ends (Fails kind) := by
  refine (Dialogue.ends_any _).bind fun ended _ => ?_
  obtain ⟨outcome, engine⟩ := ended
  cases outcome with
  | value result => exact fails_ok result
  | thrown thrown =>
      refine (Dialogue.ends_any _).bind fun told _ => ?_
      obtain ⟨outcome, engine⟩ := told
      cases outcome with
      | value report => exact fails_error (known report)
      | thrown thrown => exact fails_error (known _)

theorem callFunction_fails [Library] (function : Value) (arguments : List String) (engine : Engine) :
    (callFunction function arguments engine).Ends (Fails (Fault.ofScript · = true)) :=
  use_fails (Fault.ofScript · = true) _ (fun _ => rfl) engine

theorem callGlobal_fails [Library] (name : String) (arguments : List String) (engine : Engine) :
    (callGlobal name arguments engine).Ends
      (Fails fun fault => fault.ofScript = true ∨ fault = .notAFunction name) := by
  refine (use_fails (Fault.ofScript · = true) _ (fun _ => rfl) engine).bind fun ended script => ?_
  obtain ⟨result, engine⟩ := ended
  cases result with
  | error fault => exact fails_error (.inl (script fault rfl))
  | ok function =>
      simp only
      split
      · exact use_fails _ _ (fun _ => .inl rfl) engine
      · exact fails_error (.inr rfl)

theorem chunkFault_ofScript (path : String) (report : Report) :
    (chunkFault path report).ofScript = true := by
  unfold chunkFault
  split
  · rfl
  · rfl

theorem evaluateChunk_fails [Language] (path source : String) (engine : Engine) :
    (evaluateChunk path source engine).Ends (Fails (Fault.ofScript · = true)) := by
  unfold evaluateChunk
  cases Language.read source with
  | program program => exact use_fails _ _ (chunkFault_ofScript path) engine
  | refused error => exact use_fails _ _ (chunkFault_ofScript path) engine
  | failed message => exact fails_error (chunkFault_ofScript path _)

theorem loadFile_fails [Language] (files : FileTree) (path : String) (engine : Engine) :
    (Bridge.loadFile files path engine).Ends (Fails (Fault.ofScript · = true)) := by
  unfold Bridge.loadFile
  split
  · exact evaluateChunk_fails path _ engine
  · exact fails_error rfl

theorem status_fails {answer : Answer} {fault : Fault} (failed : answer.status = .error fault) :
    fault.ofScript = true := by
  cases answer with
  | boolean value => cases value <;> contradiction
  | other typeName =>
      cases failed
      rfl
  | _ => contradiction

end Script

theorem Bridge.converse_fails {α : Type} {nested : Nested} {index : Nat} {kind : Fault → Prop}
    {dialogue : Script.Dialogue (Except Fault α × Script.Engine)}
    (ends : dialogue.Ends (Script.Fails kind)) {session : Session} {fault : Fault}
    (failed : (converse nested index dialogue).result session = .error fault) : kind fault :=
  ends.conduct (answer nested index) session fault failed

end ScriptedShell
