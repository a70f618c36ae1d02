import ScriptedShell.Proofs.Effect

/-!
The life of a session, moment by moment: what its host does with it while nothing runs, and every step of
what runs. A timeline keeps the updates of variables, in the order in which they happened.
-/

namespace ScriptedShell

open Machine

def Change.updates : Change → List Update
  | .assign name value => [.assign name value]
  | .declare name => [.declare name]
  | .markExported name => [.markExported name]
  | _ => []

theorem Change.bindings_apply (change : Change) (session : Session) :
    (change.apply session).shell.bindings = session.shell.bindings.update change.updates := by
  cases change <;> rfl

inductive Moment where
  | rest (session : Session)
  | running (config : Config)

namespace Moment

def session : Moment → Session
  | .rest session => session
  | .running config => config.session

def Sound : Moment → Prop
  | .rest session => session.Resting
  | .running config => ∃ limits, config.Balanced limits

/-- A moment, the next one, and the updates of variables between them. -/
inductive Follows [Script.Language] : Moment → List Update → Moment → Prop where
  | change (change : Change) (session : Session) :
      Follows (.rest session) change.updates (.rest (change.apply session))
  | environment (environment : List (String × String)) (session : Session) :
      Follows (.rest session) (importUpdates environment)
        (.rest { session with shell := CommandLine.importEnvironment session.shell environment })
  | begin {stage : Stage} (operation : Operation stage) (session : Session) :
      Follows (.rest session) [] (.running (begin operation session))
  | step {config next : Config} (stepped : step config = some next) :
      Follows (.running config) config.updates (.running next)
  | finish {config : Config} (ended : step config = none) :
      Follows (.running config) [] (.rest config.session)

inductive Timeline [Script.Language] (first : Moment) : List Update → Moment → Prop where
  | refl : Timeline first [] first
  | tail {updates more : List Update} {middle last : Moment}
      (earlier : Timeline first updates middle) (follows : Follows middle more last) :
      Timeline first (updates ++ more) last

theorem sound_environment {session : Session} (resting : session.Resting)
    (environment : List (String × String)) :
    Session.Resting
      { session with shell := CommandLine.importEnvironment session.shell environment } := by
  rw [CommandLine.importEnvironment_eq]
  exact ⟨resting.frames, resting.depth, resting.idle⟩

theorem sound_finish [Script.Language] {limits : Session.Limits} {config : Config}
    (balanced : config.Balanced limits) (ended : step config = none) : config.session.Resting := by
  obtain ⟨control, waiting, session⟩ := config
  cases control with
  | answer answer =>
      cases waiting with
      | nobody =>
          refine ⟨List.length_eq_zero_iff.mp balanced.frames, balanced.depth, fun index => ?_⟩
          rw [Bool.eq_false_iff]
          intro busy
          exact List.not_mem_nil ((balanced.busy index).mp busy)
      | _ => contradiction
  | lines number lines => cases lines <;> contradiction
  | _ => contradiction

namespace Follows

variable {moment next : Moment} {updates : List Update}

theorem sound [Script.Language] (follows : Follows moment updates next) (sound : moment.Sound) : next.Sound
    := by
  cases follows with
  | change change session => exact Session.Resting.change sound change
  | environment environment session => exact sound_environment sound environment
  | begin operation session => exact ⟨_, balanced_begin operation sound⟩
  | step stepped =>
      obtain ⟨limits, balanced⟩ := sound
      exact ⟨limits, balanced_step balanced stepped⟩
  | finish ended =>
      obtain ⟨limits, balanced⟩ := sound
      exact sound_finish balanced ended

theorem bindings [Script.Language] (follows : Follows moment updates next) (sound : moment.Sound) :
    next.session.shell.bindings = moment.session.shell.bindings.update updates := by
  cases follows with
  | change change session => exact change.bindings_apply session
  | environment environment session =>
      exact congrArg Shell.bindings (CommandLine.importEnvironment_eq environment session.shell)
  | begin operation session => rfl
  | step stepped =>
      obtain ⟨limits, balanced⟩ := sound
      exact (effect_step balanced stepped).bindings
  | finish ended => rfl

end Follows

namespace Timeline

variable [Script.Language] {first middle last : Moment} {updates more : List Update}

theorem trans (earlier : Timeline first updates middle) (later : Timeline middle more last) :
    Timeline first (updates ++ more) last := by
  induction later with
  | refl => rwa [List.append_nil]
  | tail _ follows ih =>
      rw [← List.append_assoc]
      exact ih.tail follows

theorem sound (timeline : Timeline first updates last) (sound : first.Sound) : last.Sound := by
  induction timeline with
  | refl => exact sound
  | tail _ follows ih => exact follows.sound ih

theorem bindings (timeline : Timeline first updates last) (sound : first.Sound) :
    last.session.shell.bindings = first.session.shell.bindings.update updates := by
  induction timeline with
  | refl => rfl
  | tail earlier follows ih =>
      rw [follows.bindings (earlier.sound sound), ih, Variables.update_append]

theorem single (follows : Follows first updates last) : Timeline first updates last :=
  Timeline.refl.tail follows

theorem changes (changes : List Change) (session : Session) :
    Timeline (.rest session) (changes.flatMap Change.updates)
      (.rest (changes.foldl (fun session change => change.apply session) session)) := by
  induction changes generalizing session with
  | nil => exact .refl
  | cons first rest ih => exact (single (.change first session)).trans (ih _)

theorem of_reaches {config next : Config} (reaches : Reaches config next) :
    ∃ updates, Timeline (.running config) updates (.running next) := by
  induction reaches with
  | refl => exact ⟨_, .refl⟩
  | tail _ stepped ih =>
      obtain ⟨updates, earlier⟩ := ih
      exact ⟨_, earlier.tail (.step stepped)⟩

end Timeline

/-- The moments at which a session is, from when it is made. -/
def Occurs [Script.Language] (settings : HostSettings) (files : FileTree) : List Update → Moment → Prop :=
  Timeline (.rest (Session.new settings files))

namespace Occurs

variable {settings : HostSettings} {files : FileTree} {updates : List Update} {moment : Moment}

theorem sound [Script.Language] (occurs : Occurs settings files updates moment) : moment.Sound :=
  Timeline.sound occurs (Session.Reachable.new settings files).resting

theorem bindings [Script.Language] (occurs : Occurs settings files updates moment) :
    moment.session.shell.bindings =
      Variables.update ∅ (.assign Shell.versionVariable settings.version :: updates) :=
  Timeline.bindings occurs (Session.Reachable.new settings files).resting

end Occurs

end Moment

theorem Session.Reachable.occurs [Script.Language] {session : Session} (reached : session.Reachable) :
    ∃ settings files updates, Moment.Occurs settings files updates (.rest session) := by
  induction reached with
  | new settings files => exact ⟨settings, files, [], .refl⟩
  | change _ change ih =>
      obtain ⟨settings, files, updates, earlier⟩ := ih
      exact ⟨settings, files, _, earlier.tail (.change change _)⟩
  | operation reached operation ih =>
      obtain ⟨settings, files, updates, earlier⟩ := ih
      obtain ⟨more, ran⟩ := Moment.Timeline.of_reaches (reaches_begin operation reached.resting)
      have begun := earlier.tail (.begin operation _)
      exact ⟨settings, files, _, (begun.trans ran).tail (.finish rfl)⟩

theorem Session.Reachable.occurs_running [Script.Language] {stage : Stage} {operation : Operation stage}
    {start : Session} {config : Config} (reached : start.Reachable)
    (reaches : Reaches (begin operation start) config) :
    ∃ settings files updates, Moment.Occurs settings files updates (.running config) := by
  obtain ⟨settings, files, updates, earlier⟩ := reached.occurs
  obtain ⟨more, ran⟩ := Moment.Timeline.of_reaches reaches
  exact ⟨settings, files, _, (earlier.tail (.begin operation start)).trans ran⟩

end ScriptedShell
