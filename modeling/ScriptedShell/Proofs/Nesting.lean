import ScriptedShell.Proofs.Moment

/-!
How deeply commands nest. A command inside another one is the body of a function or was started by a
script, so the functions that run and the bridges in use together bound the commands that run.
-/

namespace ScriptedShell

namespace Machine

variable {stage : Stage}

/-- The commands that may wait without a function or a script to account for them. -/
def Stage.allowance : Stage → Nat
  | .command => 0
  | .words => 1
  | .request => 1

theorem Waiting.commands_le (waiting : Waiting stage) :
    waiting.commands ≤ stage.allowance + waiting.functions + waiting.scripts.length := by
  -- A waiting command is paid for by the function or the script around it, or by the allowance
  -- while its own words run.
  induction waiting with
  | nobody => exact Nat.zero_le _
  | lines number rest outer ih => exact ih
  | function outer ih =>
      simp only [commands, functions, scripts, Stage.allowance] at ih ⊢
      omega
  | script index next outer ih =>
      simp only [commands, functions, scripts, Stage.allowance, List.length_cons] at ih ⊢
      omega
  | command inverted outer ih =>
      simp only [commands, functions, scripts, Stage.allowance] at ih ⊢
      omega
  | bridge index outer ih => exact ih

theorem Control.commands_le (control : Control stage) :
    control.commands + stage.allowance ≤ 1 + control.scripts.length := by
  cases control with
  | answer answer => cases stage <;> simp [commands, scripts, Stage.allowance]
  | _ => simp [commands, scripts, Stage.allowance]

theorem Config.commands_le (config : Config) :
    config.commands ≤ 1 + config.waiting.functions + config.scripts.length := by
  have running := config.control.commands_le
  have waiting := config.waiting.commands_le
  rw [commands, scripts, List.length_append]
  omega

theorem execute_eq_of_room_lt [Script.Language] {session : Session} {left right : Nat} (command : Command)
    (leftRoom : session.room < left) (rightRoom : session.room < right) :
    execute left command session = execute right command session := by
  have toLeft := simulates_execute left command .nobody session leftRoom
  have toRight := simulates_execute right command .nobody session rightRoom
  exact toLeft.runs_eq toRight

/-- At every moment of a run the functions and the busy bridges bound the commands that run. So
commands cannot nest without end: the run ends, and a greater bound changes nothing. -/
theorem nesting_bounded [Script.Language] (operation : Operation stage) {session : Session} {config : Config}
    (reached : session.Reachable) (reaches : Reaches (begin operation session) config) :
    config.commands ≤ 1 + config.session.shell.depth + config.session.busyBridges.card ∧
      config.commands ≤
        1 + session.shell.settings.maxCallDepth.toNat + session.bridges.length ∧
      Reaches config (Waiting.nobody.await operation.run session) ∧
      ∀ (extra : Nat) (command : Command),
        execute (config.session.nestingBound + extra) command config.session =
          Session.executeCommand command config.session := by
  have resting := reached.resting
  have balanced := balanced_reaches (balanced_begin operation resting) reaches
  have nested : config.commands ≤
      1 + config.session.shell.depth + config.session.busyBridges.card := by
    rw [balanced.depth, balanced.busyBridges_card]
    exact config.commands_le
  have shallow : config.session.shell.depth ≤ session.shell.settings.maxCallDepth.toNat := by
    rw [balanced.depth]
    exact balanced.allowed
  have few : config.session.busyBridges.card ≤ session.bridges.length := by
    have same : config.session.bridges.length = session.bridges.length :=
      congrArg Session.Limits.bridges balanced.within
    rw [← same]
    exact config.session.busyBridges_card_le
  refine ⟨nested, by omega, (reaches_begin operation resting).onward rfl reaches, ?_⟩
  intro extra command
  have room := config.session.room_lt_nestingBound
  exact execute_eq_of_room_lt command (by omega) room

theorem nesting_bounded_inside_function :
    insideGreet.commands = 2 ∧
      insideGreet.commands ≤
        1 + insideGreet.session.shell.depth + insideGreet.session.busyBridges.card := by
  have bounded := nesting_bounded greet greeting_reachable reaches_insideGreet
  exact ⟨rfl, bounded.1⟩

end Machine

end ScriptedShell
