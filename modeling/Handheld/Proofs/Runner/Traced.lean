import Handheld.Proofs.Machine.Traced
import Handheld.Proofs.Runner.Turns

/-! # Traced runners

A runner whose interpreter is traced does what the runner does without the trace, action by action,
so that what is proved of the trace of every run is proved of the calls of every run.
-/
set_option autoImplicit false
namespace Handheld

variable {ι σ : Type}

def Rig.traced (rig : Rig ι σ) : Rig (Traced ι) σ where
  interpreter := rig.interpreter.traced
  surface := rig.surface
  exitOnFinish := rig.exitOnFinish

namespace Runner
variable (rig : Rig ι σ) (runner : Runner (Traced ι) σ)

def untraced : Runner ι σ where
  control := runner.control
  stage := runner.stage
  machine := runner.machine.untraced
  screen := runner.screen
  steps := runner.steps
  owed := runner.owed
  collected := runner.collected

theorem untraced_fetch : runner.fetch.untraced = runner.untraced.fetch := by
  obtain ⟨control, stage, machine, screen, steps, owed, collected⟩ := runner
  obtain ⟨state, live, commands, events, resume⟩ := control
  cases live
  · rfl
  · cases commands
    · cases state
      · rfl
      · rfl
      · rfl
    · rfl

theorem untraced_choose : (runner.choose rig.traced).untraced = runner.untraced.choose rig := rfl

theorem untraced_finishStep :
    (runner.finishStep rig.traced).untraced = runner.untraced.finishStep rig := by
  have hStep := runner.machine.untraced_step rig.interpreter
  rw [finishStep, finishStep]
  dsimp only [Rig.traced, untraced]
  rw [← hStep]
  dsimp only [Attempt.map]
  split
  · rfl
  · rfl

theorem untraced_finishLoad (program : Program) (rest : List Command) :
    (runner.finishLoad rig.traced program rest).untraced =
      runner.untraced.finishLoad rig program rest := by
  have hLoad := runner.machine.untraced_takeOver rig.interpreter program
  rw [finishLoad, finishLoad]
  dsimp only [Rig.traced, untraced]
  rw [← hLoad]
  dsimp only [Attempt.map]
  split
  · rfl
  · rfl

theorem untraced_apply (batch : List Command) :
    (runner.apply rig.traced batch).untraced = runner.untraced.apply rig batch := by
  cases batch with
  | nil => rfl
  | cons command rest =>
    cases command with
    | load program =>
      have hPrepare := runner.machine.untraced_prepare rig.interpreter
      rw [apply, apply]
      dsimp only [Rig.traced, untraced]
      rw [← hPrepare]
    | resize size =>
      have hResize := runner.machine.untraced_setScreen size
      rw [apply, apply, resize, resize]
      dsimp only [Rig.traced, untraced]
      rw [← hResize]
      dsimp only [Attempt.map]
      split
      · rfl
      · rfl

theorem untraced_work :
    (runner.work rig.traced).map untraced = runner.untraced.work rig := by
  rw [work, work]
  cases hStage : runner.stage
  all_goals
    rw [show runner.untraced.stage = runner.stage from rfl, hStage]
    dsimp only [Option.map]
  case fetching => rw [untraced_fetch]
  case chosen => rw [untraced_choose]
  case idling => rfl
  case stepping => rw [untraced_finishStep]
  case applying batch => rw [untraced_apply]
  case loading program batch => rw [untraced_finishLoad]
  case reporting batch => rfl
  case starting batch => rfl
  case rejecting batch => rfl
  case faulting => rfl
  case closing => rfl
  case finishing => rfl

theorem untraced_act (action : Action) :
    (runner.act rig.traced action).map untraced = runner.untraced.act rig action := by
  cases action with
  | request request => rfl
  | cancel => rfl
  | signal => exact apply_ite (Option.map untraced) _ _ _
  | wake => rfl
  | work => exact runner.untraced_work rig
  | crash => exact apply_ite (Option.map untraced) _ _ _
  | drain => rfl
  | collect =>
    obtain ⟨control, stage, machine, screen, steps, owed, collected⟩ := runner
    cases collected with
    | true => rfl
    | false =>
      cases stage
      case gone crashed =>
        cases crashed
        · rfl
        · rfl
      all_goals rfl

theorem untraced_actAll (actions : List Action) :
    (actAll rig.traced actions runner).map untraced = actAll rig actions runner.untraced := by
  induction actions generalizing runner with
  | nil => rfl
  | cons action rest ih =>
    rw [actAll, actAll, ← untraced_act]
    cases runner.act rig.traced action with
    | none => rfl
    | some next => exact ih next

variable {rig} {runner}

theorem untraced_of_actAll {actions : List Action} {next : Runner (Traced ι) σ}
    (h : actAll rig.traced actions runner = some next) :
    actAll rig actions runner.untraced = some next.untraced := by
  rw [← untraced_actAll, h, Option.map_some]

variable (runner)

theorem exists_traced_of_actAll {actions : List Action} {final : Runner ι σ}
    (h : actAll rig actions runner.untraced = some final) :
    ∃ next, actAll rig.traced actions runner = some next ∧ next.untraced = final := by
  rw [← untraced_actAll, Option.map_eq_some_iff] at h
  exact h

end Runner
end Handheld
