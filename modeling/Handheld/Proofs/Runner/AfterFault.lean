import Handheld.Proofs.Runner.EventStream
import Handheld.Proofs.Runner.ExitNotice
import Handheld.Proofs.Runner.LastLook

/-! # After a fault

A fault is recorded in three places. A fault of the loop is followed by the exit of the worker, and
until then only requests of the host record something. A fault of a worker that was lost is the
last event. A program that is refused counts as a fault, too, but the worker stays. In each case no
step is made before another program is loaded.
-/
set_option autoImplicit false
namespace Handheld

namespace Stage

def unloaded : Stage → Bool
  | loading _ _ | rejecting _ => true
  | _ => false

def stepless : Stage → Bool
  | reporting _ => true
  | stage => stage.leaving

variable (stage : Stage)

theorem unloaded_notified : stage.notified.unloaded = stage.unloaded := by
  cases stage
  all_goals rfl

theorem stepless_notified : stage.notified.stepless = stage.stepless := by
  cases stage
  all_goals rfl

theorem notified_eq_stepping_iff : stage.notified = .stepping ↔ stage = .stepping := by
  cases stage
  all_goals simp [notified]

end Stage

namespace Runner
variable {ι σ : Type} {rig : Rig ι σ} {runner next : Runner ι σ}

theorem phase_of_refused {program : Program}
    (hFault : (runner.machine.takeOver rig.interpreter program).fault ≠ none) :
    (runner.machine.takeOver rig.interpreter program).state.phase = runner.machine.phase := by
  obtain ⟨hSame, -, hPhase⟩ := runner.machine.takeOver_of_load rig.interpreter program
  rw [hSame] at hFault
  exact hPhase.trans (if_neg hFault)

theorem Turn.ended_of_unloaded (turn : Turn rig runner next)
    (h : runner.stage.unloaded = true → runner.machine.phase = .ended)
    (hOver : next.stage.unloaded = true) : next.machine.phase = .ended := by
  cases turn with
  | prepare => exact runner.machine.phase_prepare rig.interpreter
  | refused hStage hFault =>
    exact (phase_of_refused hFault).trans (h (by rw [hStage]; rfl))
  | stepped | resized | loaded =>
    obtain hStage | hStage := stage_redrawThen rig _ _
    all_goals
      rw [hStage] at hOver
      cases hOver
  | _ => cases hOver

theorem ended_of_run {machine : Machine ι} {screen : σ} {slots : Nat} {actions : List Action}
    (hRun : actAll rig actions (create machine screen slots) = some runner)
    (hOver : runner.stage.unloaded = true) : runner.machine.phase = .ended := by
  revert hOver
  refine actAll_induction (motive := fun _ middle =>
    middle.stage.unloaded = true → middle.machine.phase = .ended) ?_ ?_ hRun
  · intro hStart
    cases hStart
  · intro _ middle action after h move
    cases move with
    | work turn => exact turn.ended_of_unloaded h
    | signal | wake =>
      intro hOver
      exact h (middle.stage.unloaded_notified ▸ hOver)
    | crash => exact nofun
    | request | cancel | drain | collect | mourn => exact h

/-- There is no program to step, or the worker is past that or announces a new one first. -/
def Programless (runner : Runner ι σ) : Prop :=
  runner.stage.stepless = true ∨ runner.machine.phase = .ended ∧ runner.stage ≠ .stepping

namespace Programless

theorem not_stepping (h : Programless runner) : runner.stage ≠ .stepping := by
  rintro hStage
  obtain hStepless | ⟨-, hNot⟩ := h
  · rw [hStage] at hStepless
    cases hStepless
  · exact hNot hStage

theorem ended (h : Programless runner) (hHere : runner.stage.stepless = false) :
    runner.machine.phase = .ended := by
  obtain hStepless | ⟨hEnded, -⟩ := h
  · cases hHere.symm.trans hStepless
  · exact hEnded

theorem redrawThen (h : runner.machine.phase = .ended) {stage : Stage}
    (hStage : stage ≠ .stepping) : Programless (runner.redrawThen rig stage) := by
  obtain hAfter | hAfter := stage_redrawThen rig stage runner
  · exact .inr ⟨h, hAfter.symm ▸ hStage⟩
  · exact .inl (by rw [hAfter]; rfl)

theorem turn (h : Programless runner) (turn : Turn rig runner next)
    (hNone : .loaded ∉ announced runner.control runner.stage) : Programless next := by
  cases turn with
  | begin hStage hReady =>
    cases hReady.symm.trans (h.ended (by rw [hStage]; rfl))
  | stepped hStage | stumbled hStage => exact absurd hStage h.not_stepping
  | prepare => exact .inr ⟨runner.machine.phase_prepare rig.interpreter, nofun⟩
  | resized hStage =>
    have hEnded := h.ended (by rw [hStage]; rfl)
    exact redrawThen ((runner.machine.phase_setScreen _).trans hEnded) nofun
  | loaded =>
    refine .inl ?_
    obtain hAfter | hAfter := stage_redrawThen rig _ _
    all_goals
      rw [hAfter]
      rfl
  | refused hStage hFault =>
    exact .inr ⟨(phase_of_refused hFault).trans (h.ended (by rw [hStage]; rfl)), nofun⟩
  | report hStage =>
    rw [hStage] at hNone
    exact absurd List.mem_cons_self hNone
  | leave | quit | misfit | fault | dispose | finish => exact .inl rfl
  | take hStage | choose hStage | wait hStage | idle hStage | look hStage | rest hStage
  | applied hStage | start hStage | reject hStage =>
    exact .inr ⟨h.ended (by rw [hStage]; rfl), nofun⟩

theorem notified (h : Programless runner) (owed : Nat) :
    Programless { runner with owed, stage := runner.stage.notified } := by
  obtain hStepless | ⟨hEnded, hNot⟩ := h
  · exact .inl (runner.stage.stepless_notified.trans hStepless)
  · exact .inr ⟨hEnded, fun hStage => hNot (runner.stage.notified_eq_stepping_iff.mp hStage)⟩

theorem move {action : Action} (h : Programless runner) (move : Move rig runner action next)
    (hNone : .loaded ∉ recorded rig [action] runner) : Programless next := by
  cases move with
  | work turn =>
    rw [recorded, along_singleton] at hNone
    exact h.turn turn hNone
  | signal | wake => exact h.notified _
  | crash => exact .inl rfl
  | request | cancel | drain | collect | mourn => exact h

end Programless

theorem steps_of_programless {start runner : Runner (Traced ι) σ} {actions : List Action}
    (h : Programless start) (hRun : actAll rig.traced actions start = some runner)
    (hNone : .loaded ∉ recorded rig.traced actions start) :
    Programless runner ∧
      runner.machine.calls.countP InterpreterCall.isStep =
        start.machine.calls.countP InterpreterCall.isStep := by
  revert hNone
  refine actAll_induction_along (motive := fun soFar middle =>
    .loaded ∉ recorded rig.traced soFar start → Programless middle ∧
      middle.machine.calls.countP InterpreterCall.isStep =
        start.machine.calls.countP InterpreterCall.isStep) (fun _ => ⟨h, rfl⟩) ?_ hRun
  intro soFar middle action after hSoFar ih move hNone
  rw [recorded, along_append _ _ hSoFar, List.mem_append, not_or] at hNone
  obtain ⟨hHere, hSame⟩ := ih hNone.1
  refine ⟨hHere.move move hNone.2, ?_⟩
  cases move with
  | work turn =>
    obtain hCalls | ⟨call, hCalls, hStep⟩ := turn.call
    · rw [hCalls, hSame]
    · rw [hCalls, List.countP_cons_of_neg, hSame]
      exact fun hIsStep => hHere.not_stepping (hStep hIsStep)
  | _ => exact hSame

theorem tellsState_of_mem_answered {event : Event} {request : Request} {control : Control}
    (h : event ∈ control.answered request) : event.tellsState = true := by
  by_contra hSilent
  exact not_mem_answered (Bool.eq_false_iff.mpr hSilent) request control h

/-- Some turns after a fault of its loop, the worker has come so far on its way out, and besides its
exit only the host had something recorded. -/
structure WindingUp (events : List Event) (turns : Nat) (runner : Runner ι σ) : Prop where
  past : runner.stage.turnsPast? = some (turns + 1)
  exited : turns = 2 → runner.control.state = .exited
  told : ∃ answers, (∀ event ∈ answers, event.tellsState = true) ∧
    events = answers ++ if turns = 2 then [.exited] else []

theorem stage_of_turnsPast? {stage : Stage} {turns : Nat}
    (h : stage.turnsPast? = some (turns + 1)) :
    turns ≤ 2 ∧ stage = [Stage.closing, .finishing].getD turns (.gone false) := by
  cases stage with
  | closing | finishing =>
    cases h
    exact ⟨by decide, rfl⟩
  | gone crashed =>
    cases crashed with
    | false =>
      cases h
      exact ⟨by decide, rfl⟩
    | true => cases h
  | _ => cases h

namespace WindingUp
variable {events : List Event} {turns : Nat}

theorem request (h : WindingUp events turns runner) (request : Request) (owed : Nat) :
    WindingUp (events ++ runner.control.answered request) turns
      { runner with control := (runner.control.accept request).1, owed } where
  past := h.past
  exited hOut := (runner.control.state_accept request).trans (if_pos (h.exited hOut))
  told := by
    obtain ⟨answers, hAnswers, rfl⟩ := h.told
    by_cases hOut : turns = 2
    · rw [answered_of_exited (h.exited hOut), List.append_nil]
      exact ⟨answers, hAnswers, rfl⟩
    · refine ⟨answers ++ runner.control.answered request, ?_, by simp [hOut]⟩
      intro event hEvent
      obtain hOld | hNew := List.mem_append.mp hEvent
      · exact hAnswers event hOld
      · exact tellsState_of_mem_answered hNew

theorem turn (h : WindingUp events turns runner) (turn : Turn rig runner next) :
    WindingUp (events ++ announced runner.control runner.stage) (turns + 1) next := by
  obtain ⟨hPast, -, answers, hAnswers, rfl⟩ := h
  cases turn with
  | dispose hStage =>
    rw [hStage] at hPast
    cases hPast
    exact ⟨rfl, nofun, answers, hAnswers, by simp [hStage, announced]⟩
  | finish hStage =>
    rw [hStage] at hPast
    cases hPast
    exact ⟨rfl, fun _ => rfl, answers, hAnswers, by simp [hStage, announced]⟩
  | leave hStage | take hStage | choose hStage | wait hStage | begin hStage | quit hStage
  | idle hStage | look hStage | rest hStage | stepped hStage | stumbled hStage | applied hStage
  | prepare hStage | resized hStage | misfit hStage | loaded hStage | refused hStage
  | report hStage | start hStage | reject hStage | fault hStage =>
    rw [hStage] at hPast
    cases hPast

theorem move {action : Action} (h : WindingUp events turns runner)
    (move : Move rig runner action next) :
    WindingUp (events ++ recorded rig [action] runner) (turns + action.isWork.toNat) next := by
  rw [recorded, along_singleton]
  cases move with
  | request request => exact h.request request _
  | work turn => exact h.turn turn
  | signal | wake =>
    rw [List.append_nil]
    exact ⟨runner.stage.turnsPast?_notified.trans h.past, h.exited, h.told⟩
  | crash hCall =>
    have hPast := h.past
    cases hStage : runner.stage with
    | stepping | loading =>
      rw [hStage] at hPast
      cases hPast
    | _ =>
      rw [hStage] at hCall
      cases hCall
  | cancel | drain =>
    rw [List.append_nil]
    exact ⟨h.past, h.exited, h.told⟩
  | collect hStage =>
    rw [hStage, List.append_nil]
    exact ⟨hStage ▸ h.past, h.exited, h.told⟩
  | mourn hStage =>
    have hPast := h.past
    rw [hStage] at hPast
    cases hPast

theorem of_run {start : Runner ι σ} {actions : List Action} (hStage : start.stage = .closing)
    (hRun : actAll rig actions start = some runner) :
    WindingUp (recorded rig actions start) (actions.countP Action.isWork) runner := by
  have hStart : WindingUp [] 0 start := ⟨by rw [hStage]; rfl, nofun, [], nofun, rfl⟩
  refine actAll_induction_along (motive := fun soFar middle =>
    WindingUp (recorded rig soFar start) (soFar.countP Action.isWork) middle) hStart ?_ hRun
  intro soFar middle action after hSoFar ih move
  rw [recorded, along_append _ _ hSoFar, List.countP_append, List.countP_singleton]
  have hAfter := ih.move move
  cases hWork : action.isWork
  all_goals
    rw [hWork] at hAfter
    exact hAfter

theorem not_mem_loaded (h : WindingUp events turns runner) : .loaded ∉ events := by
  obtain ⟨-, -, answers, hAnswers, rfl⟩ := h
  intro hMember
  obtain hAnswer | hExit := List.mem_append.mp hMember
  · cases hAnswers _ hAnswer
  · split at hExit
    · cases List.mem_singleton.mp hExit
    · cases hExit

theorem exists_gone (h : WindingUp events turns runner) (rig : Rig ι σ) :
    ∃ last, actAll rig (.replicate (2 - turns) .work) runner = some last ∧
      last.stage = .gone false := by
  obtain ⟨hLe, hStage⟩ := stage_of_turnsPast? h.past
  obtain ⟨control, stage, machine, screen, steps, owed, collected⟩ := runner
  subst hStage
  match turns with
  | 0 | 1 | 2 => exact ⟨_, rfl, rfl⟩

end WindingUp

theorem Move.collected {action : Action} (move : Move rig runner action next)
    (hTaken : runner.collected = true) : next.collected = true := by
  cases move with
  | work turn => exact turn.collected.trans hTaken
  | collect | mourn => rfl
  | _ => exact hTaken

theorem recorded_of_mourned (hGone : runner.stage = .gone true)
    (hExited : runner.control.state = .exited) (hTaken : runner.collected = true)
    {actions : List Action} (hRun : actAll rig actions runner = some next) :
    recorded rig actions runner = [] := by
  induction actions generalizing runner with
  | nil => rfl
  | cons action rest ih =>
    rw [actAll, Option.bind_eq_some_iff] at hRun
    obtain ⟨middle, hAct, hRest⟩ := hRun
    have move := move_of_act hAct
    have hNone : recorded rig [action] runner = [] := by
      rw [recorded, along_singleton, hGone]
      cases action with
      | request request => exact answered_of_exited hExited request
      | collect =>
        rw [act, if_pos hTaken] at hAct
        cases hAct
      | _ => rfl
    have hOne : actAll rig [action] runner = some middle :=
      (actAll_singleton action runner).trans hAct
    calc recorded rig (action :: rest) runner
        = recorded rig [action] runner ++ recorded rig rest middle := along_append _ rest hOne
      _ = [] := by
        rw [hNone, ih (move.of_gone hGone).1 (move.exited hExited) (move.collected hTaken) hRest]
        rfl

theorem Announces.after {action : Action} (h : Announces runner action)
    (hAct : runner.act rig action = some next) :
    runner.stage = .faulting ∧ next.stage = .closing ∨
      runner.stage = .gone true ∧ next.stage = .gone true ∧ next.control.state = .exited ∧
        next.collected = true ∨
      ∃ rest, runner.stage = .rejecting rest ∧
        next =
          { runner with control := runner.control.record .fault, stage := .applying rest } := by
  cases h with
  | faulting hStage =>
    rw [act, work, hStage] at hAct
    cases hAct
    exact .inl ⟨hStage, rfl⟩
  | lost hStage =>
    rw [act, hStage] at hAct
    split at hAct
    · cases hAct
    · cases hAct
      exact .inr (.inl ⟨hStage, rfl, rfl, rfl⟩)
  | @rejecting rest hStage =>
    rw [act, work, hStage] at hAct
    cases hAct
    exact .inr (.inr ⟨rest, hStage, rfl⟩)

/-- No step follows a fault unless a program was refused and another one is loaded. A fault is
recorded in one of three places. In the loop: then the worker is gone after two turns, and besides
its exit, which is told last, only what the host asks for until then is recorded. For a worker that
was lost: then nothing follows. For a program that is refused: then the worker stays and goes on
with the commands it took. -/
theorem quiet_of_fault (rig : Rig ι σ) (machine : Machine ι) (screen : σ) (slots : Nat)
    (earlier : List Action) (action : Action) (later : List Action)
    (middle after final : Runner ι σ)
    (hEarlier : actAll rig earlier (create machine screen slots) = some middle)
    (hFault : .fault ∈ recorded rig [action] middle)
    (hAction : middle.act rig action = some after)
    (hLater : actAll rig later after = some final) :
    let turns := later.countP Action.isWork
    (∃ before runner : Runner (Traced ι) σ,
      actAll rig.traced (earlier ++ [action]) (create machine.traced screen slots) = some before ∧
      before.untraced = after ∧
      actAll rig.traced later before = some runner ∧ runner.untraced = final ∧
      ((∀ rest, middle.stage = .rejecting rest → .loaded ∉ recorded rig later after) →
        final.stage ≠ .stepping ∧
        runner.machine.calls.countP InterpreterCall.isStep =
          before.machine.calls.countP InterpreterCall.isStep)) ∧
    (middle.stage = .faulting ∧ turns ≤ 2 ∧
        final.stage = [Stage.closing, .finishing].getD turns (.gone false) ∧
        (∃ last, actAll rig (.replicate (2 - turns) .work) final = some last ∧
          last.stage = .gone false) ∧
        (∃ answers, (∀ event ∈ answers, event.tellsState = true) ∧
          recorded rig later after = answers ++ if turns = 2 then [.exited] else []) ∨
      middle.stage = .gone true ∧ final.stage = .gone true ∧ recorded rig later after = [] ∨
      ∃ rest, middle.stage = .rejecting rest ∧
        after =
          { middle with control := middle.control.record .fault, stage := .applying rest }) := by
  intro turns
  have hAfter : actAll rig (earlier ++ [action]) (create machine screen slots) = some after := by
    rw [actAll_append, hEarlier]
    exact (actAll_singleton action middle).trans hAction
  obtain ⟨before, hBefore, rfl⟩ :=
    exists_traced_of_actAll (create machine.traced screen slots) hAfter
  obtain ⟨runner, hRunner, rfl⟩ := exists_traced_of_actAll before hLater
  have hQuiet (h : Programless before) (hNone : .loaded ∉ recorded rig later before.untraced) :
      runner.untraced.stage ≠ .stepping ∧
        runner.machine.calls.countP InterpreterCall.isStep =
          before.machine.calls.countP InterpreterCall.isStep := by
    have hTraced : .loaded ∉ recorded rig.traced later before := by
      rw [recorded, along_traced]
      exact hNone
    obtain ⟨hEnd, hSteps⟩ := steps_of_programless h hRunner hTraced
    exact ⟨hEnd.not_stepping, hSteps⟩
  obtain ⟨hStage, hClosing⟩ | ⟨hLost, hGone, hExited, hTaken⟩ | ⟨rest, hStage, hSame⟩ :=
    (announces_of_recorded hFault).after hAction
  · have hWinding := WindingUp.of_run hClosing hLater
    obtain ⟨hLe, hEnd⟩ := stage_of_turnsPast? hWinding.past
    have hOut : before.stage.stepless = true := congrArg Stage.stepless hClosing
    refine ⟨⟨before, runner, hBefore, rfl, hRunner, rfl, fun _ => ?_⟩,
      .inl ⟨hStage, hLe, hEnd, ?_, ?_⟩⟩
    · exact hQuiet (.inl hOut) hWinding.not_mem_loaded
    · exact hWinding.exists_gone rig
    · exact hWinding.told
  · have hNothing := recorded_of_mourned hGone hExited hTaken hLater
    have hOut : before.stage.stepless = true := congrArg Stage.stepless hGone
    refine ⟨⟨before, runner, hBefore, rfl, hRunner, rfl, fun _ => ?_⟩,
      .inr (.inl ⟨hLost, ?_, hNothing⟩)⟩
    · exact hQuiet (.inl hOut) (hNothing ▸ List.not_mem_nil)
    · exact (actAll_of_gone hGone hLater).1
  · have hEnded : middle.machine.phase = .ended := ended_of_run hEarlier (by rw [hStage]; rfl)
    have hIdle : Programless before.untraced := by
      rw [hSame]
      exact .inr ⟨hEnded, by simp⟩
    refine ⟨⟨before, runner, hBefore, rfl, hRunner, rfl, fun hNone => ?_⟩,
      .inr (.inr ⟨rest, hStage, hSame⟩)⟩
    exact hQuiet hIdle (hNone rest hStage)

/-- After the fault of the second program, which is refused, the third one is loaded and stepped. -/
theorem quiet_of_relaunches :
    let start machine := create machine (Lcd.ofSize "lcd" ⟨16, 32⟩) 4
    ∃ machine middle after final before runner,
      Machine.create ⟨⟨16, 32⟩, 8, 1⟩ (Counted.start Player.idle) = .ok machine ∧
      actAll balkyRig (relaunches.take 14) (start machine) = some middle ∧
      .fault ∈ recorded balkyRig [.work] middle ∧
      middle.act balkyRig .work = some after ∧
      actAll balkyRig (relaunches.drop 15) after = some final ∧
      after = { middle with control := middle.control.record .fault, stage := .applying [] } ∧
      recorded balkyRig (relaunches.drop 15) after = [.loaded, .running, .exited] ∧
      before.untraced = after ∧ runner.untraced = final ∧
      actAll balkyRig.traced (relaunches.drop 15) before = some runner ∧
      before.machine.calls.countP InterpreterCall.isStep = 1 ∧
      runner.machine.calls.countP InterpreterCall.isStep = 2 := by
  intro start
  have hRun : ∃ machine,
      Machine.create ⟨⟨16, 32⟩, 8, 1⟩ (Counted.start Player.idle) = .ok machine ∧
      ((actAll balkyRig (relaunches.take 14) (start machine)).bind fun middle =>
        (middle.act balkyRig .work).bind fun after =>
          (actAll balkyRig (relaunches.drop 15) after).map fun _ =>
            (recorded balkyRig [.work] middle, middle.stage,
              recorded balkyRig (relaunches.drop 15) after)) =
        some ([.fault], .rejecting [], [.loaded, .running, .exited]) ∧
      ((actAll balkyRig.traced (relaunches.take 14 ++ [.work])
          (create machine.traced (Lcd.ofSize "lcd" ⟨16, 32⟩) 4)).bind fun before =>
        (actAll balkyRig.traced (relaunches.drop 15) before).map fun runner =>
          (before.machine.calls.countP InterpreterCall.isStep,
            runner.machine.calls.countP InterpreterCall.isStep)) = some (1, 2) := by
    refine ⟨_, rfl, ?_, ?_⟩
    · decide +kernel
    · decide +kernel
  obtain ⟨machine, hCreate, hPlain, hTraced⟩ := hRun
  rw [Option.bind_eq_some_iff] at hPlain
  obtain ⟨middle, hMiddle, hPlain⟩ := hPlain
  rw [Option.bind_eq_some_iff] at hPlain
  obtain ⟨after, hAfter, hPlain⟩ := hPlain
  obtain ⟨final, hFinal, hEvents⟩ := Option.map_eq_some_iff.mp hPlain
  obtain ⟨hFirst, hRest⟩ := Prod.mk.inj hEvents
  obtain ⟨hStage, hLater⟩ := Prod.mk.inj hRest
  have hFault : .fault ∈ recorded balkyRig [.work] middle := by
    rw [hFirst]
    exact List.mem_cons_self
  obtain ⟨⟨before, runner, hBefore, hSame, hRunner, hEnd, -⟩, hCases⟩ :=
    quiet_of_fault balkyRig machine _ 4 _ .work _ middle after final hMiddle hFault hAfter hFinal
  rw [hBefore, Option.bind_some, hRunner, Option.map_some, Option.some_inj] at hTraced
  obtain ⟨hOne, hTwo⟩ := Prod.mk.inj hTraced
  refine ⟨machine, middle, after, final, before, runner, hCreate, hMiddle, hFault, hAfter, hFinal,
    ?_, hLater, hSame, hEnd, hRunner, hOne, hTwo⟩
  obtain ⟨hOther, -⟩ | ⟨hOther, -⟩ | ⟨rest, hRefused, hGoesOn⟩ := hCases
  · cases hStage.symm.trans hOther
  · cases hStage.symm.trans hOther
  · cases hStage.symm.trans hRefused
    exact hGoesOn

end Runner
end Handheld
