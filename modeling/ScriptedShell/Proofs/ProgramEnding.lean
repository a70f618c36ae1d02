import Mathlib.Data.Int.Basic
import ScriptedShell.Program

/-!
What child programs end with. Whatever a script of the command interpreter does, it exits with a code that
fits a byte or is ended by a signal that there is, so its status is never mistaken for another one.
-/

namespace ScriptedShell

def Status.Ordinary (status : Status) : Prop :=
  0 ≤ status.toInt ∧ status.toInt < 256

instance (status : Status) : Decidable status.Ordinary :=
  inferInstanceAs (Decidable (0 ≤ status.toInt ∧ status.toInt < 256))

theorem Status.ordinary_ofNat {number : Nat} (small : number < 256) :
    Status.Ordinary (Int32.ofNat number) := by
  have same : (Int32.ofNat number).toInt = number := by
    rw [Int32.toInt_ofNat_of_lt (by omega)]
  rw [Ordinary, same]
  omega

namespace Interpreter

/-- An ending that the shell can be told of: an exit code of eight bits, or a signal that there is. -/
def Ending.Fits : Ending → Prop
  | .exited code => code < 256
  | .signalled signal => signal ≤ lastSignal

theorem Ending.Fits.ordinary {ending : Ending} (fits : ending.Fits) : ending.status.Ordinary := by
  cases ending with
  | exited code => exact Status.ordinary_ofNat fits
  | signalled signal =>
      have small : signal ≤ 64 := fits
      exact Status.ordinary_ofNat (by omega)

structure State.Fits (state : State) : Prop where
  code : state.code < 256
  ending : ∀ ending, state.ending = some ending → ending.Fits

variable {state : State}

namespace State.Fits

theorem fail (fits : state.Fits) {code : Nat} (small : code < 256) (text : String) :
    (state.fail code text).Fits :=
  ⟨small, fits.ending⟩

theorem succeed (fits : state.Fits) : { state with code := 0 }.Fits :=
  ⟨by simp, fits.ending⟩

theorem stop (fits : state.Fits) {ending : Ending} (last : ending.Fits) :
    { state with ending := some ending }.Fits := by
  refine ⟨fits.code, ?_⟩
  rintro _ ⟨⟩
  exact last

theorem ite {condition : Prop} [Decidable condition] {left right : State} (whenTrue : left.Fits)
    (whenFalse : right.Fits) : (if condition then left else right).Fits := by
  split
  · exact whenTrue
  · exact whenFalse

theorem result (fits : state.Fits) : state.result.ending.Fits := by
  rw [State.result]
  cases ended : state.ending with
  | none => exact fits.code
  | some ending => exact fits.ending ending ended

end State.Fits

theorem signalNumber_le {name : String} {signal : Nat} (known : signalNumber name = some signal) :
    signal ≤ lastSignal := by
  unfold signalNumber at known
  split at known
  case h_12 =>
    obtain ⟨_, small⟩ := Option.filter_eq_some_iff.mp known
    exact of_decide_eq_true small
  all_goals
    cases known
    decide

theorem kill_fits (fits : state.Fits) (signal target : String) : (kill state signal target).Fits := by
  unfold kill
  split
  · exact fits.fail (by decide) _
  · exact fits.succeed
  · rename_i number known
    split
    · exact fits.stop (signalNumber_le known)
    · exact fits.fail (by decide) _

theorem test_fits (fits : state.Fits) (operands : List String) : (test state operands).Fits := by
  unfold test
  split
  · exact fits.succeed
  · exact ⟨by simp, fits.ending⟩
  · exact fits.fail (by decide) _

theorem runFields_fits (fits : state.Fits) (fields : List String) : (runFields state fields).Fits := by
  unfold runFields
  split
  · exact fits.succeed
  · split
    · exact fits.stop fits.code
    · split
      · exact fits.stop (Nat.mod_lt _ (by decide))
      · exact (fits.fail (by decide) _).stop (show (2 : Nat) < 256 by decide)
  · exact ⟨by simp, fits.ending⟩
  · exact ⟨by simp, fits.ending⟩
  · exact kill_fits fits _ _
  · split
    · exact kill_fits fits _ _
    · exact kill_fits fits _ _
  · exact kill_fits fits _ _
  · exact fits.succeed
  · exact fits.succeed
  · exact ⟨by simp, fits.ending⟩
  · exact test_fits fits _
  · split
    · exact test_fits fits _
    · exact fits.fail (by decide) _
  · exact fits.fail (by decide) _

theorem assign_fits (words : List Word) (fits : state.Fits) :
    (words.foldl (fun state word =>
      match word.assignment? with
      | some (name, value) =>
        let field := fillPieces state (Template.read value)
        { state with bindings := state.bindings.insert name field, code := 0 }
      | none => state) state).Fits := by
  induction words generalizing state with
  | nil => exact fits
  | cons word rest ih =>
      rw [List.foldl_cons]
      apply ih
      split
      · exact ⟨by simp, fits.ending⟩
      · exact fits

theorem runCommand_fits (fits : state.Fits) (text : String) : (runCommand state text).Fits := by
  unfold runCommand
  split
  · refine ⟨fits.code, ?_⟩
    rintro _ ⟨⟩
    exact show (2 : Nat) < 256 by decide
  · exact fits
  · split
    · exact assign_fits _ fits
    · exact runFields_fits fits _

theorem runScript_fits (fits : state.Fits) (script : String) : (runScript state script).Fits := by
  unfold runScript
  induction splitCommands .bare .always "" script.toList generalizing state with
  | nil => exact fits
  | cons first rest ih =>
      obtain ⟨connector, text⟩ := first
      rw [List.foldl_cons]
      apply ih
      have ran := runCommand_fits fits text
      refine .ite fits ?_
      cases connector with
      | always => exact ran
      | ifSuccess => exact .ite ran fits
      | ifFailure => exact .ite fits ran

theorem run_fits (readScript : String → Option String) (environment : Table String)
    (arguments : List String) : (run readScript environment arguments).ending.Fits := by
  have fresh (arguments : List String) : State.Fits { bindings := environment, arguments } :=
    ⟨by simp, nofun⟩
  unfold run
  split
  · exact show (0 : Nat) < 256 by decide
  · exact show (2 : Nat) < 256 by decide
  · exact (runScript_fits (fresh _) _).result
  · split
    · exact (runScript_fits (fresh _) _).result
    · exact show (2 : Nat) < 256 by decide

end Interpreter

theorem Program.start_ordinary {tree : FileTree} {name : String} {arguments : List String}
    {exports : List (String × String)} {result : Interpreter.Result}
    (started : start tree name arguments exports = .ok result) : result.ending.status.Ordinary := by
  unfold start at started
  split at started
  · contradiction
  · simp only at started
    split at started
    · contradiction
    · cases started
      exact (Interpreter.run_fits _ _ _).ordinary

end ScriptedShell
