import Handheld.Proofs.Runner.CallOrder
import Handheld.Proofs.Runner.Requests

/-! # The exit of the worker

The control block says that the worker has exited only after the worker has let its program go and
dropped what was queued, or after it was lost. What a host asks for from then on has no effect.
-/
set_option autoImplicit false
namespace Handheld

theorem Stage.notified_eq_gone_iff {stage : Stage} {crashed : Bool} :
    stage.notified = .gone crashed ↔ stage = .gone crashed := by
  cases stage with
  | waiting | resting => exact ⟨nofun, nofun⟩
  | _ => exact Iff.rfl

namespace Runner

variable {ι σ : Type} {rig : Rig ι σ} {runner next : Runner ι σ}

/-- Only the last turn of the worker says that it has exited. -/
theorem Turn.closes (turn : Turn rig runner next) :
    next.control = runner.control.close ∧ next.stage = .gone false ∨
      (next.control.state = .exited → runner.control.state = .exited) ∧
        ∀ crashed, next.stage ≠ .gone crashed := by
  cases turn with
  | finish => exact .inl ⟨rfl, rfl⟩
  | start hStage =>
    refine .inr ⟨?_, nofun⟩
    intro hExited
    by_contra hOpen
    rw [Control.state_startLoaded hOpen] at hExited
    split at hExited
    · cases hExited
    · exact hOpen hExited
  -- a redraw that fails leads to the faulting stage, not out of the loop at once
  | stepped | resized | loaded =>
    refine .inr ⟨id, ?_⟩
    intro crashed hGone
    obtain hStage | hStage := stage_redrawThen rig _ _
    · cases hGone.symm.trans hStage
    · cases hGone.symm.trans hStage
  | _ => exact .inr ⟨id, nofun⟩

/-- What it means, after some actions, that the worker is gone. -/
structure Departed (actions : List Action) (runner : Runner ι σ) : Prop where
  gone_of_exited : runner.control.state = .exited → ∃ crashed, runner.stage = .gone crashed
  shut_of_gone : runner.stage = .gone false →
    runner.control.state = .exited ∧ runner.control.commands = []
  crash_of_gone : runner.stage = .gone true → .crash ∈ actions

namespace Departed
variable {actions : List Action}

theorem not_exited (h : Departed actions runner) (hHere : ∀ crashed, runner.stage ≠ .gone crashed) :
    runner.control.state ≠ .exited := by
  intro hExited
  obtain ⟨crashed, hGone⟩ := h.gone_of_exited hExited
  exact hHere crashed hGone

theorem turn (h : Departed actions runner) (turn : Turn rig runner next) :
    Departed (actions ++ [.work]) next := by
  obtain ⟨hControl, hStage⟩ | ⟨hOpen, hHere⟩ := turn.closes
  · constructor
    · exact fun _ => ⟨false, hStage⟩
    · intro _
      rw [hControl]
      exact ⟨rfl, rfl⟩
    · intro hGone
      cases hGone.symm.trans hStage
  · constructor
    · intro hExited
      exact absurd (hOpen hExited) (h.not_exited turn.stage_ne_gone)
    · intro hGone
      exact absurd hGone (hHere false)
    · intro hGone
      exact absurd hGone (hHere true)

theorem request (h : Departed actions runner) (request : Request) :
    Departed (actions ++ [.request request])
      { runner with
        control := (runner.control.accept request).1
        owed := runner.owed + (runner.control.accept request).2.toNat } := by
  by_cases hExited : runner.control.state = .exited
  · obtain ⟨resumeAfterLoad, hAccept⟩ := Control.accept_of_exited hExited request
    rw [hAccept]
    exact ⟨h.gone_of_exited, h.shut_of_gone, fun hGone =>
      List.mem_append_left _ (h.crash_of_gone hGone)⟩
  · constructor
    · intro hAfter
      rw [Control.state_accept, if_neg hExited] at hAfter
      cases request with
      | launch | pause | resume => cases hAfter
      | resize => exact absurd hAfter hExited
    · intro hGone
      exact absurd (h.shut_of_gone hGone).1 hExited
    · exact fun hGone => List.mem_append_left _ (h.crash_of_gone hGone)

theorem notified (h : Departed actions runner) (owed : Nat) (action : Action) :
    Departed (actions ++ [action]) { runner with owed, stage := runner.stage.notified } := by
  constructor
  · intro hExited
    obtain ⟨crashed, hGone⟩ := h.gone_of_exited hExited
    exact ⟨crashed, Stage.notified_eq_gone_iff.mpr hGone⟩
  · exact fun hGone => h.shut_of_gone (Stage.notified_eq_gone_iff.mp hGone)
  · exact fun hGone =>
      List.mem_append_left _ (h.crash_of_gone (Stage.notified_eq_gone_iff.mp hGone))

theorem move {action : Action} (h : Departed actions runner) (move : Move rig runner action next) :
    Departed (actions ++ [action]) next := by
  cases move with
  | request request => exact h.request request
  | signal | wake => exact h.notified _ _
  | work turn => exact h.turn turn
  | crash =>
    constructor
    · exact fun _ => ⟨true, rfl⟩
    · exact nofun
    · exact fun _ => List.mem_append_right _ List.mem_cons_self
  | cancel | drain | collect =>
    exact ⟨h.gone_of_exited, h.shut_of_gone, fun hGone =>
      List.mem_append_left _ (h.crash_of_gone hGone)⟩
  | mourn hStage =>
    constructor
    · exact fun _ => ⟨true, hStage⟩
    · intro hGone
      cases hGone.symm.trans hStage
    · exact fun hGone => List.mem_append_left _ (h.crash_of_gone hGone)

end Departed

theorem departed_of_run {machine : Machine ι} {screen : σ} {slots : Nat} {actions : List Action}
    (hRun : actAll rig actions (create machine screen slots) = some runner) :
    Departed actions runner := by
  have hStart : Departed [] (create machine screen slots) := ⟨nofun, nofun, nofun⟩
  refine actAll_induction (motive := Departed) hStart ?_ hRun
  intro _ _ _ _ h move
  exact h.move move

theorem Turn.exited (turn : Turn rig runner next) (h : runner.control.state = .exited) :
    next.control.state = .exited := by
  cases turn with
  | start hStage =>
    dsimp only
    rw [Control.startLoaded, Control.enter_of_exited h]
    split
    · exact h
    · exact h
  | finish => rfl
  | _ => exact h

theorem Move.exited {action : Action} (move : Move rig runner action next)
    (h : runner.control.state = .exited) : next.control.state = .exited := by
  cases move with
  | request request => exact (runner.control.state_accept request).trans (if_pos h)
  | work turn => exact turn.exited h
  | mourn => rfl
  | _ => exact h

theorem exited_of_run {actions : List Action} (h : runner.control.state = .exited)
    (hRun : actAll rig actions runner = some next) : next.control.state = .exited := by
  refine actAll_induction (motive := fun _ final => final.control.state = .exited) h ?_ hRun
  intro _ _ _ _ hBefore move
  exact move.exited hBefore

theorem act_request_of_exited (rig : Rig ι σ) (h : runner.control.state = .exited)
    (request : Request) :
    ∃ resumeAfterLoad, runner.act rig (.request request) =
      some { runner with control := { runner.control with resumeAfterLoad } } := by
  obtain ⟨resumeAfterLoad, hAccept⟩ := Control.accept_of_exited h request
  refine ⟨resumeAfterLoad, ?_⟩
  rw [act, hAccept]
  rfl

/-- An exited worker stays exited and has no further effect, and neither has a request. Unless it
was lost it has let go of its program, once and after everything else, and nothing is queued. -/
theorem exit_of_run (rig : Rig ι σ) (machine : Machine ι) (screen : σ) (slots : Nat)
    (actions : List Action) (final : Runner ι σ)
    (hRun : actAll rig actions (create machine screen slots) = some final)
    (hExited : final.control.state = .exited) :
    (∀ later last, actAll rig later final = some last →
      last.control.state = .exited ∧ last.machine = final.machine ∧ last.screen = final.screen ∧
      ∀ request, ∃ after, last.act rig (.request request) = some after ∧
        after.control.state = .exited ∧ after.control.events = last.control.events ∧
        after.control.commands = last.control.commands ∧ after.machine = last.machine ∧
        after.screen = last.screen) ∧
    (.crash ∉ actions →
      final.stage = .gone false ∧ final.control.commands = [] ∧
      ∃ runner earlier,
        actAll rig.traced actions (create machine.traced screen slots) = some runner ∧
        runner.untraced = final ∧ runner.machine.calls = .dispose :: earlier ∧
        earlier.head? ≠ some .dispose) := by
  have hDeparted : Departed actions final := departed_of_run hRun
  obtain ⟨crashed, hGone⟩ := hDeparted.gone_of_exited hExited
  constructor
  · intro later last hLater
    obtain ⟨-, hMachine, hScreen⟩ := actAll_of_gone hGone hLater
    have hStill : last.control.state = .exited := exited_of_run hExited hLater
    refine ⟨hStill, hMachine, hScreen, ?_⟩
    intro request
    obtain ⟨resumeAfterLoad, hAct⟩ := act_request_of_exited rig hStill request
    exact ⟨_, hAct, hStill, rfl, rfl, rfl, rfl⟩
  · intro hSound
    cases crashed with
    | true => exact absurd (hDeparted.crash_of_gone hGone) hSound
    | false =>
      obtain ⟨runner, hTraced, hSame⟩ :=
        exists_traced_of_actAll (create machine.traced screen slots) hRun
      have hStage : runner.stage = .gone false := (congrArg Runner.stage hSame).trans hGone
      have hOrder : InOrder runner := inOrder_of_run machine screen slots hTraced
      obtain ⟨earlier, hCalls, hPlain⟩ := hOrder.standing_of_stage hStage
      exact ⟨hGone, (hDeparted.shut_of_gone hGone).2, runner, earlier, hTraced, hSame, hCalls,
        InterpreterCall.head?_ne_of_letGo hPlain⟩

/-- The worker is told to leave in the middle of a step, with a request still in the queue. -/
def cutShort : List Action :=
  .request (.launch ⟨"first", #[0x61, 0x62]⟩) :: .replicate 8 .work ++
    [.request (.launch ⟨"second", #[0x63]⟩), .cancel, .work, .work, .work, .work]

theorem exit_of_cutShort :
    ∃ machine final runner earlier,
      Machine.create ⟨⟨16, 32⟩, 8, 1⟩ (Counted.start Player.idle) = .ok machine ∧
      actAll balkyRig cutShort (create machine (Lcd.ofSize "lcd" ⟨16, 32⟩) 4) = some final ∧
      final.control.state = .exited ∧ final.control.commands = [] ∧ final.steps = 1 ∧
      actAll balkyRig.traced cutShort
        (create machine.traced (Lcd.ofSize "lcd" ⟨16, 32⟩) 4) = some runner ∧
      runner.untraced = final ∧ runner.machine.calls = .dispose :: earlier ∧
      earlier.head? ≠ some .dispose := by
  have hRun : ∃ machine,
      Machine.create ⟨⟨16, 32⟩, 8, 1⟩ (Counted.start Player.idle) = .ok machine ∧
      (actAll balkyRig cutShort (create machine (Lcd.ofSize "lcd" ⟨16, 32⟩) 4)).map
        (fun final => (final.control.state, final.steps)) = some (.exited, 1) := by
    refine ⟨_, rfl, ?_⟩
    decide +kernel
  obtain ⟨machine, hCreate, hMap⟩ := hRun
  obtain ⟨final, hFinal, hEnd⟩ := Option.map_eq_some_iff.mp hMap
  obtain ⟨hExited, hSteps⟩ := Prod.mk.inj hEnd
  have hSound : .crash ∉ cutShort := by simp [cutShort]
  obtain ⟨-, hGone⟩ := exit_of_run balkyRig machine _ 4 cutShort final hFinal hExited
  obtain ⟨-, hEmpty, runner, earlier, hTraced, hSame, hCalls, hLast⟩ := hGone hSound
  exact ⟨machine, final, runner, earlier, hCreate, hFinal, hExited, hEmpty, hSteps, hTraced, hSame,
    hCalls, hLast⟩

end Runner
end Handheld
