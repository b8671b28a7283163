import Handheld.Runner.Worker
import Mathlib.Data.List.Induction

/-! # Turns

What a single action can do to a runner, one case for each branch the worker has. An invariant of
a runner is proved case by case from here and then holds after every run.
-/
set_option autoImplicit false
namespace Handheld.Runner

variable {ι σ : Type} {rig : Rig ι σ} {runner next : Runner ι σ}

theorem stage_redrawThen (rig : Rig ι σ) (stage : Stage) (runner : Runner ι σ) :
    (runner.redrawThen rig stage).stage = stage ∨
      (runner.redrawThen rig stage).stage = .faulting := by
  rw [redrawThen]
  dsimp only
  split
  · exact .inr rfl
  · exact .inl rfl

/-- One turn of the worker. Each case names where the worker stands and what it found there. -/
inductive Turn (rig : Rig ι σ) (runner : Runner ι σ) : Runner ι σ → Prop
  | leave (hStage : runner.stage = .fetching)
      (hReason : runner.control.live = false ∨
        runner.control.commands = [] ∧ runner.control.state = .exited) :
      Turn rig runner { runner with stage := .closing }
  | take (hStage : runner.stage = .fetching) (hLive : runner.control.live = true)
      (hSome : runner.control.commands ≠ []) :
      Turn rig runner
        { runner with
          control := { runner.control with commands := [] }
          stage := .applying runner.control.commands }
  | choose (hStage : runner.stage = .fetching) (hLive : runner.control.live = true)
      (hNone : runner.control.commands = []) (hState : runner.control.state = .running) :
      Turn rig runner { runner with stage := .chosen }
  | wait (hStage : runner.stage = .fetching) (hLive : runner.control.live = true)
      (hNone : runner.control.commands = []) (hState : runner.control.state = .paused) :
      Turn rig runner { runner with stage := .waiting }
  | begin (hStage : runner.stage = .chosen) (hReady : runner.machine.phase = .ready) :
      Turn rig runner { runner with stage := .stepping }
  | quit (hStage : runner.stage = .chosen) (hEnded : runner.machine.phase = .ended)
      (hExit : rig.exitOnFinish = true) : Turn rig runner { runner with stage := .closing }
  | idle (hStage : runner.stage = .chosen) (hEnded : runner.machine.phase = .ended)
      (hExit : rig.exitOnFinish = false) : Turn rig runner { runner with stage := .idling }
  | look (hStage : runner.stage = .idling)
      (hReason : runner.control.live = false ∨ runner.control.commands ≠ []) :
      Turn rig runner { runner with stage := .fetching }
  | rest (hStage : runner.stage = .idling) (hLive : runner.control.live = true)
      (hNone : runner.control.commands = []) : Turn rig runner { runner with stage := .resting }
  | stepped (hStage : runner.stage = .stepping)
      (hFault : (runner.machine.step rig.interpreter).fault = none) :
      Turn rig runner
        ({ runner with
          machine := (runner.machine.step rig.interpreter).state
          steps := runner.steps + 1 }.redrawThen rig .fetching)
  | stumbled (hStage : runner.stage = .stepping)
      (hFault : (runner.machine.step rig.interpreter).fault ≠ none) :
      Turn rig runner
        { runner with
          machine := (runner.machine.step rig.interpreter).state
          stage := .faulting }
  | applied (hStage : runner.stage = .applying []) :
      Turn rig runner { runner with stage := .fetching }
  | prepare {program : Program} {batch : List Command}
      (hStage : runner.stage = .applying (.load program :: batch)) :
      Turn rig runner
        { runner with
          machine := runner.machine.prepare rig.interpreter
          stage := .loading program batch }
  | resized {size : PixelSize} {batch : List Command}
      (hStage : runner.stage = .applying (.resize size :: batch))
      (hFault : (runner.machine.setScreen size).fault = none) :
      Turn rig runner
        ({ runner with
          machine := (runner.machine.setScreen size).state.onConsole fun console =>
            console.requestRefresh RefreshMask.everything
          screen := rig.surface.resize size runner.screen }.redrawThen rig (.applying batch))
  | misfit {size : PixelSize} {batch : List Command}
      (hStage : runner.stage = .applying (.resize size :: batch))
      (hFault : (runner.machine.setScreen size).fault ≠ none) :
      Turn rig runner
        { runner with
          machine := (runner.machine.setScreen size).state
          screen := rig.surface.resize size runner.screen
          stage := .faulting }
  | loaded {program : Program} {batch : List Command}
      (hStage : runner.stage = .loading program batch)
      (hFault : (runner.machine.takeOver rig.interpreter program).fault = none) :
      Turn rig runner
        ({ runner with
          machine := (runner.machine.takeOver rig.interpreter program).state.onConsole
            fun console => console.requestRefresh RefreshMask.everything
          }.redrawThen rig (.reporting batch))
  | refused {program : Program} {batch : List Command}
      (hStage : runner.stage = .loading program batch)
      (hFault : (runner.machine.takeOver rig.interpreter program).fault ≠ none) :
      Turn rig runner
        { runner with
          machine := (runner.machine.takeOver rig.interpreter program).state
          stage := .rejecting batch }
  | report {batch : List Command} (hStage : runner.stage = .reporting batch) :
      Turn rig runner
        { runner with control := runner.control.record .loaded, stage := .starting batch }
  | start {batch : List Command} (hStage : runner.stage = .starting batch) :
      Turn rig runner
        { runner with control := runner.control.startLoaded, stage := .applying batch }
  | reject {batch : List Command} (hStage : runner.stage = .rejecting batch) :
      Turn rig runner
        { runner with control := runner.control.record .fault, stage := .applying batch }
  | fault (hStage : runner.stage = .faulting) :
      Turn rig runner { runner with control := runner.control.record .fault, stage := .closing }
  | dispose (hStage : runner.stage = .closing) :
      Turn rig runner
        { runner with machine := runner.machine.dispose rig.interpreter, stage := .finishing }
  | finish (hStage : runner.stage = .finishing) :
      Turn rig runner { runner with control := runner.control.close, stage := .gone false }

theorem turn_fetch (hStage : runner.stage = .fetching) : Turn rig runner runner.fetch := by
  rw [fetch]
  split
  · rename_i hLive
    exact .leave hStage (.inl (by simpa using hLive))
  · rename_i hLive
    have hLive : runner.control.live = true := by simpa using hLive
    split
    · rename_i hNone
      have hNone : runner.control.commands = [] := List.isEmpty_iff.mp hNone
      cases hState : runner.control.state with
      | running => exact .choose hStage hLive hNone hState
      | exited => exact .leave hStage (.inr ⟨hNone, hState⟩)
      | paused => exact .wait hStage hLive hNone hState
    · rename_i hSome
      exact .take hStage hLive fun hNone => hSome (List.isEmpty_iff.mpr hNone)

theorem turn_choose (hStage : runner.stage = .chosen) : Turn rig runner (runner.choose rig) := by
  rw [choose, Machine.isEnd]
  cases hPhase : runner.machine.phase with
  | ready => exact .begin hStage hPhase
  | ended =>
    cases hExit : rig.exitOnFinish with
    | true => exact .quit hStage hPhase hExit
    | false => exact .idle hStage hPhase hExit

theorem turn_idle (hStage : runner.stage = .idling) : Turn rig runner runner.idle := by
  rw [Runner.idle]
  cases hLive : runner.control.live with
  | false => exact .look hStage (.inl hLive)
  | true =>
    cases hCommands : runner.control.commands with
    | nil => exact .rest hStage hLive hCommands
    | cons command rest =>
      have hSome : runner.control.commands ≠ [] := by simp [hCommands]
      exact .look hStage (.inr hSome)

theorem turn_finishStep (hStage : runner.stage = .stepping) :
    Turn rig runner (runner.finishStep rig) := by
  rw [finishStep]
  dsimp only
  split
  · rename_i e hFault
    exact .stumbled hStage (by simp [hFault])
  · rename_i hFault
    exact .stepped hStage hFault

theorem turn_finishLoad {program : Program} {batch : List Command}
    (hStage : runner.stage = .loading program batch) :
    Turn rig runner (runner.finishLoad rig program batch) := by
  rw [finishLoad]
  dsimp only
  split
  · rename_i e hFault
    exact .refused hStage (by simp [hFault])
  · rename_i hFault
    exact .loaded hStage hFault

theorem turn_apply {batch : List Command} (hStage : runner.stage = .applying batch) :
    Turn rig runner (runner.apply rig batch) := by
  rw [apply.eq_def]
  split
  · exact .applied hStage
  · exact .prepare hStage
  · rw [resize]
    dsimp only
    split
    · rename_i e hFault
      exact .misfit hStage (by simp [hFault])
    · rename_i hFault
      exact .resized hStage hFault

theorem turn_of_work (h : runner.work rig = some next) : Turn rig runner next := by
  cases hStage : runner.stage
  all_goals
    rw [work, hStage] at h
    cases h
  case fetching => exact turn_fetch hStage
  case chosen => exact turn_choose hStage
  case idling => exact turn_idle hStage
  case stepping => exact turn_finishStep hStage
  case applying batch => exact turn_apply hStage
  case loading program batch => exact turn_finishLoad hStage
  case reporting batch => exact .report hStage
  case starting batch => exact .start hStage
  case rejecting batch => exact .reject hStage
  case faulting => exact .fault hStage
  case closing => exact .dispose hStage
  case finishing => exact .finish hStage

/-- One action of the host or of the worker. -/
inductive Move (rig : Rig ι σ) (runner : Runner ι σ) : Action → Runner ι σ → Prop
  | request (request : Request) :
      Move rig runner (.request request)
        { runner with
          control := (runner.control.accept request).1
          owed := runner.owed + (runner.control.accept request).2.toNat }
  | cancel :
      Move rig runner .cancel
        { runner with control := runner.control.cancel, owed := runner.owed + 1 }
  | signal (hOwed : runner.owed ≠ 0) :
      Move rig runner .signal
        { runner with owed := runner.owed - 1, stage := runner.stage.notified }
  | wake : Move rig runner .wake { runner with stage := runner.stage.notified }
  | work {next : Runner ι σ} (turn : Turn rig runner next) : Move rig runner .work next
  | crash (hCall : runner.stage.inCall = true) :
      Move rig runner .crash { runner with stage := .gone true }
  | drain :
      Move rig runner .drain
        { runner with
          control := { runner.control with events := runner.control.events.drain.2 } }
  | collect (hStage : runner.stage = .gone false) :
      Move rig runner .collect { runner with collected := true }
  | mourn (hStage : runner.stage = .gone true) :
      Move rig runner .collect
        { runner with control := runner.control.abandon, collected := true }

theorem move_of_act {action : Action} (h : runner.act rig action = some next) :
    Move rig runner action next := by
  cases action
  case request request =>
    cases h
    exact .request request
  case cancel =>
    cases h
    exact .cancel
  case signal =>
    rw [act] at h
    split at h
    · cases h
    · rename_i hOwed
      cases h
      exact .signal hOwed
  case wake =>
    cases h
    exact .wake
  case work => exact .work (turn_of_work h)
  case crash =>
    rw [act] at h
    split at h
    · rename_i hCall
      cases h
      exact .crash hCall
    · cases h
  case drain =>
    cases h
    exact .drain
  case collect =>
    rw [act] at h
    split at h
    · cases h
    · split at h
      · rename_i hStage
        cases h
        exact .collect hStage
      · rename_i hStage
        cases h
        exact .mourn hStage
      · cases h

theorem actAll_append (actions later : List Action) (runner : Runner ι σ) :
    actAll rig (actions ++ later) runner =
      (actAll rig actions runner).bind (actAll rig later) := by
  induction actions generalizing runner with
  | nil => rw [List.nil_append, actAll, Option.bind_some]
  | cons first rest ih =>
    rw [List.cons_append, actAll, actAll]
    cases runner.act rig first with
    | none => rfl
    | some next => exact ih next

theorem actAll_singleton (action : Action) (runner : Runner ι σ) :
    actAll rig [action] runner = runner.act rig action := Option.bind_fun_some _

/-- What holds at the start and survives every move holds after every run. The property may speak
of the actions so far, which are a run of their own. -/
theorem actAll_induction_along {motive : List Action → Runner ι σ → Prop}
    (hStart : motive [] runner)
    (hMove : ∀ (actions : List Action) (middle : Runner ι σ) (action : Action)
      (after : Runner ι σ), actAll rig actions runner = some middle → motive actions middle →
      Move rig middle action after → motive (actions ++ [action]) after)
    {actions : List Action} (hRun : actAll rig actions runner = some next) :
    motive actions next := by
  induction actions using List.reverseRecOn generalizing next with
  | nil =>
    cases hRun
    exact hStart
  | append_singleton actions action ih =>
    rw [actAll_append, Option.bind_eq_some_iff] at hRun
    obtain ⟨middle, hMiddle, hAct⟩ := hRun
    rw [actAll_singleton] at hAct
    exact hMove actions middle action next hMiddle (ih hMiddle) (move_of_act hAct)

theorem actAll_induction {motive : List Action → Runner ι σ → Prop} (hStart : motive [] runner)
    (hMove : ∀ (actions : List Action) (middle : Runner ι σ) (action : Action)
      (after : Runner ι σ), motive actions middle → Move rig middle action after →
      motive (actions ++ [action]) after) {actions : List Action}
    (hRun : actAll rig actions runner = some next) : motive actions next :=
  actAll_induction_along hStart
    (fun actions middle action after _ => hMove actions middle action after) hRun

theorem Turn.stage_ne_gone (turn : Turn rig runner next) (crashed : Bool) :
    runner.stage ≠ .gone crashed := by
  intro hGone
  cases turn
  all_goals simp_all only [reduceCtorEq]

theorem Move.of_gone {crashed : Bool} {action : Action} (move : Move rig runner action next)
    (hGone : runner.stage = .gone crashed) :
    next.stage = .gone crashed ∧ next.machine = runner.machine ∧ next.screen = runner.screen := by
  cases move with
  | request | cancel | drain | collect | mourn => exact ⟨hGone, rfl, rfl⟩
  | signal | wake => exact ⟨by rw [hGone]; rfl, rfl, rfl⟩
  | crash hCall =>
    rw [hGone] at hCall
    cases hCall
  | work turn => exact absurd hGone (turn.stage_ne_gone crashed)

theorem actAll_of_gone {crashed : Bool} (hGone : runner.stage = .gone crashed)
    {actions : List Action} (hRun : actAll rig actions runner = some next) :
    next.stage = .gone crashed ∧ next.machine = runner.machine ∧ next.screen = runner.screen := by
  refine actAll_induction (motive := fun _ final => final.stage = .gone crashed ∧
    final.machine = runner.machine ∧ final.screen = runner.screen) ⟨hGone, rfl, rfl⟩ ?_ hRun
  rintro - middle action after ⟨hStage, hMachine, hScreen⟩ move
  obtain ⟨hStage, hSame, hShown⟩ := move.of_gone hStage
  exact ⟨hStage, hSame.trans hMachine, hShown.trans hScreen⟩

end Handheld.Runner
