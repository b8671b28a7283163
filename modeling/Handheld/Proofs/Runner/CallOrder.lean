import Handheld.Display.Lcd
import Handheld.Machine.Counted
import Handheld.Player.Basic
import Handheld.Proofs.Runner.Traced

/-! # The order of the interpreter's calls

The worker steps an interpreter only while a program is loaded and has not come to its end, lets a
program go before it loads another one over it, and lets go once more as its last call. Which call
may come next depends on the calls so far alone; the phase of the machine agrees with them all the
time. Traces have their latest call first.
-/
set_option autoImplicit false
namespace Handheld
namespace InterpreterCall

/-- The program loaded last was taken over, none of its steps failed and it was not let go. -/
def inForce : List InterpreterCall → Bool
  | [] => false
  | load outcome :: _ => outcome != .failed
  | step outcome :: earlier => outcome != .failed && inForce earlier
  | dispose :: _ => false

def leftUnfinished : List InterpreterCall → Bool
  | load outcome :: _ | step outcome :: _ => outcome == .unfinished
  | _ => false

def steppable (calls : List InterpreterCall) : Bool := inForce calls && leftUnfinished calls

def disposals (calls : List InterpreterCall) : Nat := (calls.takeWhile (· == dispose)).length

def beforeDisposals (calls : List InterpreterCall) : List InterpreterCall :=
  calls.dropWhile (· == dispose)

def stepsMade (calls : List InterpreterCall) : Nat :=
  calls.countP fun
    | step outcome => outcome != .failed
    | _ => false

/-- A load finds exactly one disposal in front of it if there was a program to let go. -/
def MayLoad (calls : List InterpreterCall) : Prop :=
  disposals calls = if steppable (beforeDisposals calls) then 1 else 0

def letGo : List InterpreterCall → Bool
  | [] | load _ :: _ => false
  | step _ :: earlier => letGo earlier
  | dispose :: _ => true

def MayFollow (earlier : List InterpreterCall) : InterpreterCall → Prop
  | step _ => steppable earlier = true
  | load _ => MayLoad earlier
  | dispose => letGo earlier = false

def Lawful : List InterpreterCall → Prop
  | [] => True
  | call :: earlier => MayFollow earlier call ∧ Lawful earlier

variable {calls earlier : List InterpreterCall} {outcome : CallOutcome}

theorem steppable_load : steppable (load outcome :: earlier) = true ↔ outcome.phase = .ready := by
  cases outcome with
  | failed => exact ⟨nofun, nofun⟩
  | unfinished => exact ⟨fun _ => rfl, fun _ => rfl⟩
  | finished => exact ⟨nofun, nofun⟩

theorem steppable_step (h : steppable earlier = true) :
    steppable (step outcome :: earlier) = true ↔ outcome.phase = .ready := by
  obtain ⟨hForce, _⟩ := Bool.and_eq_true_iff.mp h
  cases outcome with
  | failed => exact ⟨nofun, nofun⟩
  | unfinished =>
    exact ⟨fun _ => rfl, fun _ => by simp [steppable, inForce, leftUnfinished, hForce]⟩
  | finished => simp [steppable, leftUnfinished, CallOutcome.phase]

theorem letGo_of_inForce (h : inForce calls = true) : letGo calls = false := by
  induction calls with
  | nil => rfl
  | cons call earlier ih =>
    cases call with
    | load outcome => rfl
    | step outcome =>
      obtain ⟨_, hForce⟩ := Bool.and_eq_true_iff.mp h
      exact ih hForce
    | dispose => cases h

theorem letGo_of_steppable (h : steppable calls = true) : letGo calls = false :=
  letGo_of_inForce (Bool.and_eq_true_iff.mp h).1

theorem head?_ne_of_letGo (h : letGo calls = false) : calls.head? ≠ some dispose := by
  cases calls with
  | nil => simp
  | cons call earlier =>
    rintro hHead
    cases hHead
    cases h

theorem exists_load_of_letGo {between : List InterpreterCall}
    (h : letGo (between ++ dispose :: earlier) = false) : ∃ outcome, load outcome ∈ between := by
  induction between with
  | nil => cases h
  | cons call rest ih =>
    cases call with
    | load outcome => exact ⟨outcome, List.mem_cons_self⟩
    | step outcome =>
      obtain ⟨other, hMember⟩ := ih h
      exact ⟨other, List.mem_cons_of_mem _ hMember⟩
    | dispose => cases h

theorem not_steppable_of_mayLoad (h : MayLoad calls) : steppable calls = false := by
  cases calls with
  | nil => rfl
  | cons call earlier =>
    cases call with
    | dispose => rfl
    | load outcome =>
      cases hSteppable : steppable (load outcome :: earlier) with
      | false => rfl
      | true => simp [MayLoad, disposals, beforeDisposals, hSteppable] at h
    | step outcome =>
      cases hSteppable : steppable (step outcome :: earlier) with
      | false => rfl
      | true => simp [MayLoad, disposals, beforeDisposals, hSteppable] at h

theorem beforeDisposals_of_letGo (h : letGo calls = false) :
    disposals calls = 0 ∧ beforeDisposals calls = calls := by
  cases calls with
  | nil => exact ⟨rfl, rfl⟩
  | cons call earlier =>
    cases call with
    | load outcome => exact ⟨rfl, rfl⟩
    | step outcome => exact ⟨rfl, rfl⟩
    | dispose => cases h

theorem mayLoad_of_ended (hPlain : letGo calls = false) (hEnded : steppable calls = false) :
    MayLoad calls := by
  obtain ⟨hNone, hBefore⟩ := beforeDisposals_of_letGo hPlain
  rw [MayLoad, hNone, hBefore, hEnded]
  rfl

theorem mayLoad_dispose (hReady : steppable calls = true) : MayLoad (dispose :: calls) := by
  obtain ⟨hNone, hBefore⟩ := beforeDisposals_of_letGo (letGo_of_steppable hReady)
  have hOne : disposals (dispose :: calls) = disposals calls + 1 := rfl
  have hSame : beforeDisposals (dispose :: calls) = beforeDisposals calls := rfl
  rw [MayLoad, hOne, hSame, hNone, hBefore, hReady]
  rfl

theorem Lawful.mayFollow {call : InterpreterCall} {later : List InterpreterCall}
    (h : Lawful (later ++ call :: earlier)) : MayFollow earlier call := by
  induction later with
  | nil => exact h.1
  | cons last rest ih => exact ih h.2

end InterpreterCall

namespace Runner
open InterpreterCall

variable {ι σ : Type} {rig : Rig ι σ} {runner next : Runner (Traced ι) σ}

/-- What the calls have come to where the worker stands. -/
def Standing (calls : List InterpreterCall) : Stage → Prop
  | .stepping => steppable calls = true
  | .loading _ _ => MayLoad calls
  | .finishing | .gone false => ∃ earlier, calls = .dispose :: earlier ∧ letGo earlier = false
  | .gone true => True
  | _ => letGo calls = false

structure Accounted (stage : Stage) (calls : List InterpreterCall) (phase : Phase) (steps : Nat) :
    Prop where
  lawful : Lawful calls
  ready_iff : phase = .ready ↔ steppable calls = true
  steps_eq : steps = stepsMade calls
  standing : Standing calls stage

namespace Accounted
variable {stage other : Stage} {calls : List InterpreterCall} {phase : Phase} {steps : Nat}

theorem moved (h : Accounted stage calls phase steps) (hStanding : Standing calls other) :
    Accounted other calls phase steps := { h with standing := hStanding }

theorem disposed (h : Accounted .closing calls phase steps) :
    Accounted .finishing (.dispose :: calls) .ended steps where
  lawful := ⟨h.standing, h.lawful⟩
  ready_iff := ⟨nofun, nofun⟩
  steps_eq := h.steps_eq
  standing := ⟨calls, rfl, h.standing⟩

theorem prepared {batch : List Command} (h : Accounted (.applying batch) calls phase steps)
    (program : Program) (rest : List Command) :
    Accounted (.loading program rest)
      (if phase = .ended then calls else .dispose :: calls) .ended steps := by
  have hPlain : letGo calls = false := h.standing
  cases phase with
  | ended =>
    have hEnded : steppable calls = false :=
      Bool.eq_false_iff.mpr fun hSteppable => nomatch h.ready_iff.mpr hSteppable
    exact h.moved (mayLoad_of_ended hPlain hEnded)
  | ready =>
    exact
      { lawful := ⟨hPlain, h.lawful⟩
        ready_iff := ⟨nofun, nofun⟩
        steps_eq := h.steps_eq
        standing := mayLoad_dispose (h.ready_iff.mp rfl) }

theorem ended_of_loading {program : Program} {rest : List Command}
    (h : Accounted (.loading program rest) calls phase steps) : phase = .ended := by
  have hNone : steppable calls = false := not_steppable_of_mayLoad h.standing
  cases phase with
  | ended => rfl
  | ready => exact absurd (h.ready_iff.mp rfl) (by simp [hNone])

theorem loaded {program : Program} {rest batch : List Command}
    (h : Accounted (.loading program rest) calls .ended steps) (outcome : CallOutcome) :
    Accounted (.applying batch) (.load outcome :: calls) outcome.phase steps where
  lawful := ⟨h.standing, h.lawful⟩
  ready_iff := steppable_load.symm
  steps_eq := h.steps_eq
  standing := rfl

theorem stepped (h : Accounted .stepping calls phase steps) (outcome : CallOutcome) :
    Accounted .fetching (.step outcome :: calls) outcome.phase
      (if outcome = .failed then steps else steps + 1) where
  lawful := ⟨h.standing, h.lawful⟩
  ready_iff := (steppable_step h.standing).symm
  steps_eq := by
    rw [stepsMade, List.countP_cons, h.steps_eq, stepsMade]
    cases outcome <;> rfl
  standing := show letGo calls = false from letGo_of_steppable h.standing

theorem begin (machine : Machine ι) :
    Accounted .fetching machine.traced.calls machine.traced.phase 0 := by
  obtain ⟨interp, work, phase, program⟩ := machine
  cases phase with
  | ready =>
    exact
      { lawful := ⟨rfl, trivial⟩
        ready_iff := ⟨fun _ => rfl, fun _ => rfl⟩
        steps_eq := rfl
        standing := rfl }
  | ended =>
    exact
      { lawful := trivial
        ready_iff := ⟨nofun, nofun⟩
        steps_eq := rfl
        standing := rfl }

end Accounted

def InOrder (runner : Runner (Traced ι) σ) : Prop :=
  Accounted runner.stage runner.machine.calls runner.machine.phase runner.steps

theorem InOrder.redrawThen {stage : Stage}
    (h : Accounted stage runner.machine.calls runner.machine.phase runner.steps)
    (hPlain : letGo runner.machine.calls = false) :
    InOrder (runner.redrawThen rig.traced stage) := by
  obtain hStage | hStage := stage_redrawThen rig.traced stage runner
  · rw [InOrder, hStage]
    exact h
  · rw [InOrder, hStage]
    exact h.moved hPlain

theorem InOrder.takeOver (rig : Rig ι σ) {program : Program} {batch : List Command}
    (h : InOrder runner) (hStage : runner.stage = .loading program batch) :
    let attempt := runner.machine.takeOver rig.interpreter.traced program
    Accounted (.applying batch) attempt.state.calls attempt.state.phase runner.steps := by
  intro attempt
  rw [InOrder, hStage] at h
  -- a refused load leaves the phase, which has ended by now, so that it always follows the load
  have hEnded : runner.machine.phase = .ended := h.ended_of_loading
  obtain ⟨outcome, hCalls, -, hPhase⟩ := runner.machine.takeOver_traced rig.interpreter program
  have hOutcome : attempt.state.phase = outcome.phase := by
    rw [hPhase, hEnded]
    cases outcome with
    | failed | unfinished | finished => rfl
  rw [hCalls, hOutcome]
  rw [hEnded] at h
  exact h.loaded outcome

theorem InOrder.step (rig : Rig ι σ) (h : InOrder runner) (hStage : runner.stage = .stepping) :
    let attempt := runner.machine.step rig.interpreter.traced
    (attempt.fault = none →
      Accounted .fetching attempt.state.calls attempt.state.phase (runner.steps + 1)) ∧
    (attempt.fault ≠ none →
      Accounted .fetching attempt.state.calls attempt.state.phase runner.steps) := by
  intro attempt
  rw [InOrder, hStage] at h
  obtain ⟨outcome, hCalls, hFailed, hPhase⟩ :=
    runner.machine.step_traced rig.interpreter (h.ready_iff.mpr h.standing)
  have hAfter := h.stepped outcome
  rw [← hCalls, ← hPhase] at hAfter
  constructor
  · intro hFault
    rwa [if_neg fun hFail => hFailed.mp hFail hFault] at hAfter
  · intro hFault
    rwa [if_pos (hFailed.mpr hFault)] at hAfter

theorem InOrder.setScreen {size : PixelSize} {batch : List Command} (h : InOrder runner)
    (hStage : runner.stage = .applying (.resize size :: batch)) :
    let after := (runner.machine.setScreen size).state
    Accounted (.applying batch) after.calls after.phase runner.steps := by
  intro after
  have hCalls : after.calls = runner.machine.calls :=
    congrArg Traced.calls (runner.machine.interp_setScreen size)
  rw [hCalls, runner.machine.phase_setScreen size]
  rw [InOrder, hStage] at h
  exact h.moved h.standing

theorem InOrder.turn (h : InOrder runner) (turn : Turn rig.traced runner next) : InOrder next := by
  cases turn with
  | leave hStage | take hStage | choose hStage | wait hStage | quit hStage | idle hStage
  | look hStage | rest hStage | applied hStage | report hStage | start hStage | reject hStage
  | fault hStage | finish hStage =>
    rw [InOrder, hStage] at h
    exact h.moved h.standing
  | begin hStage hReady =>
    rw [InOrder, hStage] at h
    exact h.moved (h.ready_iff.mp hReady)
  | stepped hStage hFault =>
    have hAfter := (h.step rig hStage).1 hFault
    exact .redrawThen hAfter hAfter.standing
  | stumbled hStage hFault =>
    have hAfter := (h.step rig hStage).2 hFault
    exact hAfter.moved hAfter.standing
  | @prepare program batch hStage =>
    rw [InOrder, hStage] at h
    have hAfter := h.prepared program batch
    rw [← runner.machine.calls_prepare rig.interpreter,
      ← runner.machine.phase_prepare rig.interpreter.traced] at hAfter
    exact hAfter
  | resized hStage =>
    have hAfter := h.setScreen hStage
    exact .redrawThen (hAfter.moved hAfter.standing) hAfter.standing
  | misfit hStage =>
    have hAfter := h.setScreen hStage
    exact hAfter.moved hAfter.standing
  | loaded hStage =>
    have hAfter := h.takeOver rig hStage
    exact .redrawThen (hAfter.moved hAfter.standing) hAfter.standing
  | refused hStage =>
    have hAfter := h.takeOver rig hStage
    exact hAfter.moved hAfter.standing
  | dispose hStage =>
    rw [InOrder, hStage] at h
    exact h.disposed

theorem InOrder.move {action : Action} (h : InOrder runner)
    (move : Move rig.traced runner action next) : InOrder next := by
  cases move with
  | request | cancel | drain | collect | mourn => exact h
  | signal | wake =>
    rw [InOrder] at h ⊢
    cases hStage : runner.stage
    all_goals
      rw [hStage] at h
      exact h.moved h.standing
  | work turn => exact h.turn turn
  | crash => exact Accounted.moved h trivial

theorem InOrder.standing_of_stage {stage : Stage} (h : InOrder runner)
    (hStage : runner.stage = stage) : Standing runner.machine.calls stage := by
  rw [InOrder, hStage] at h
  exact h.standing

theorem InOrder.mayFollow {call : InterpreterCall} {later earlier : List InterpreterCall}
    (h : InOrder runner) (hCalls : runner.machine.calls = later ++ call :: earlier) :
    MayFollow earlier call := by
  rw [InOrder, hCalls] at h
  exact h.lawful.mayFollow

theorem inOrder_of_run (machine : Machine ι) (screen : σ) (slots : Nat) {actions : List Action}
    (hRun : actAll rig.traced actions (create machine.traced screen slots) = some runner) :
    InOrder runner := by
  have hStart : InOrder (create machine.traced screen slots) := Accounted.begin machine
  refine actAll_induction (motive := fun _ middle => InOrder middle) hStart ?_ hRun
  intro _ _ _ _ h move
  exact h.move move

/-- The interpreter is called in order on every run, whatever the host asks for and whichever
calls fail. -/
theorem calls_of_run (rig : Rig ι σ) (machine : Machine ι) (screen : σ) (slots : Nat)
    (actions : List Action) (final : Runner ι σ)
    (hRun : actAll rig actions (create machine screen slots) = some final) :
    ∃ runner : Runner (Traced ι) σ,
      actAll rig.traced actions (create machine.traced screen slots) = some runner ∧
      runner.untraced = final ∧
      (∀ later outcome earlier, runner.machine.calls = later ++ .step outcome :: earlier →
        steppable earlier = true) ∧
      (∀ later outcome earlier, runner.machine.calls = later ++ .load outcome :: earlier →
        disposals earlier = if steppable (beforeDisposals earlier) then 1 else 0) ∧
      (∀ later between earlier,
        runner.machine.calls = later ++ .dispose :: (between ++ .dispose :: earlier) →
        ∃ outcome, .load outcome ∈ between) ∧
      (final.stage = .stepping → steppable runner.machine.calls = true) ∧
      (∀ program rest, final.stage = .loading program rest → MayLoad runner.machine.calls) ∧
      (final.stage = .gone false →
        (∃ earlier, runner.machine.calls = .dispose :: earlier ∧
          earlier.head? ≠ some .dispose) ∧
        ∀ further next, actAll rig.traced further runner = some next →
          next.machine.calls = runner.machine.calls) ∧
      final.steps = stepsMade runner.machine.calls := by
  obtain ⟨runner, hTraced, rfl⟩ := exists_traced_of_actAll (create machine.traced screen slots) hRun
  have hOrder : InOrder runner := inOrder_of_run machine screen slots hTraced
  refine ⟨runner, hTraced, rfl, ?_, ?_, ?_, ?_, ?_, ?_, hOrder.steps_eq⟩
  · intro later outcome earlier hCalls
    exact hOrder.mayFollow hCalls
  · intro later outcome earlier hCalls
    exact hOrder.mayFollow hCalls
  · intro later between earlier hCalls
    exact exists_load_of_letGo (hOrder.mayFollow hCalls)
  · intro hStage
    exact hOrder.standing_of_stage hStage
  · intro program rest hStage
    exact hOrder.standing_of_stage hStage
  · intro hStage
    have hGone : runner.stage = .gone false := hStage
    obtain ⟨earlier, hCalls, hPlain⟩ := hOrder.standing_of_stage hGone
    refine ⟨⟨earlier, hCalls, head?_ne_of_letGo hPlain⟩, ?_⟩
    intro further next hFurther
    obtain ⟨-, hMachine, -⟩ := actAll_of_gone hGone hFurther
    rw [hMachine]

/-- Its third call is refused, and it leaves at the end of a program. -/
def balkyRig : Rig (Counted Player) Lcd where
  interpreter := Player.interpreter.counted [2] "refused"
  surface := Lcd.surface
  exitOnFinish := true

/-- The second program comes after one step of the first and is refused, the third one comes to its
end. -/
def relaunches : List Action :=
  .request (.launch ⟨"first", #[0x61, 0x62]⟩) :: .replicate 9 .work ++
    .request (.launch ⟨"second", #[0x63]⟩) :: .replicate 6 .work ++
    .request (.launch ⟨"third", #[0x64]⟩) :: .signal :: .replicate 13 .work

theorem calls_of_relaunches :
    ∃ machine final runner,
      Machine.create ⟨⟨16, 32⟩, 8, 1⟩ (Counted.start Player.idle) = .ok machine ∧
      actAll balkyRig relaunches (create machine (Lcd.ofSize "lcd" ⟨16, 32⟩) 4) = some final ∧
      actAll balkyRig.traced relaunches
        (create machine.traced (Lcd.ofSize "lcd" ⟨16, 32⟩) 4) = some runner ∧
      runner.untraced = final ∧ final.stage = .gone false ∧ final.steps = 2 ∧
      runner.machine.calls = [.dispose, .step .finished, .load .unfinished, .load .failed,
        .dispose, .step .unfinished, .load .unfinished] ∧
      ∃ earlier, runner.machine.calls = .dispose :: earlier ∧
        earlier.head? ≠ some .dispose := by
  have hRun : ∃ machine,
      Machine.create ⟨⟨16, 32⟩, 8, 1⟩ (Counted.start Player.idle) = .ok machine ∧
      (actAll balkyRig.traced relaunches
          (create machine.traced (Lcd.ofSize "lcd" ⟨16, 32⟩) 4)).map
        (fun runner => (runner.stage, runner.steps, runner.machine.calls)) =
        some (.gone false, 2, [.dispose, .step .finished, .load .unfinished, .load .failed,
          .dispose, .step .unfinished, .load .unfinished]) := by
    refine ⟨_, rfl, ?_⟩
    decide +kernel
  obtain ⟨machine, hCreate, hMap⟩ := hRun
  obtain ⟨runner, hTraced, hEnd⟩ := Option.map_eq_some_iff.mp hMap
  obtain ⟨hStage, hRest⟩ := Prod.mk.inj hEnd
  obtain ⟨hSteps, hCalls⟩ := Prod.mk.inj hRest
  have hRun : actAll balkyRig relaunches (create machine (Lcd.ofSize "lcd" ⟨16, 32⟩) 4) =
      some runner.untraced := untraced_of_actAll hTraced
  obtain ⟨same, hSame, hUntraced, -, -, -, -, -, hGone, -⟩ :=
    calls_of_run balkyRig machine (Lcd.ofSize "lcd" ⟨16, 32⟩) 4 relaunches runner.untraced hRun
  rw [hTraced, Option.some_inj] at hSame
  subst hSame
  obtain ⟨⟨earlier, hLast, hPlain⟩, -⟩ := hGone hStage
  exact ⟨machine, _, runner, hCreate, hRun, hTraced, hUntraced, hStage, hSteps, hCalls,
    earlier, hLast, hPlain⟩

end Runner
end Handheld
