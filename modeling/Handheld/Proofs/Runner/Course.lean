import Handheld.Proofs.Machine.Run
import Handheld.Proofs.Runner.Commands
import Handheld.Proofs.Runner.Synced

/-! # A program in the hands of the worker

Where the worker stands tells how far it is with the program that it was given: which steps of a
direct run it has made, whether that run is over, and that the display shows the console.
-/
set_option autoImplicit false
namespace Handheld
namespace Runner
open Machine

def playerRig : Rig Player Lcd := ⟨Player.interpreter, Lcd.surface, true⟩

variable {geometry : Geometry} {machine : Machine Player} {program : Program} {name : String}
  {runner next : Runner Player Lcd}

/-- The steps made so far are the first of a direct run, and the display shows what they printed. -/
structure Playing (geometry : Geometry) (loaded machine : Machine Player) (screen : Lcd)
    (steps : Nat) : Prop where
  leads : ∃ direct, LeadsTo Player.interpreter steps loaded direct ∧ machine = direct.settled
  formed : WellFormed geometry machine
  shows : screen.Shows machine.work.console.reached

structure Over (geometry : Geometry) (loaded machine : Machine Player) (screen : Lcd) (steps : Nat)
    (result : RunResult Player) : Prop where
  run_eq : ∀ limit, steps < limit → loaded.run Player.interpreter limit = result
  made_eq : result.stepsMade = steps
  ended : result.machine.isEnd = true
  work_eq : machine.work = result.machine.work.onConsole Console.settlePending
  formed : WellFormed geometry machine
  shows : screen.Shows machine.work.console.reached

namespace Playing
variable {loaded : Machine Player} {screen : Lcd} {steps : Nat}

theorem step (h : Playing geometry loaded runner.machine runner.screen runner.steps)
    (hHeight : geometry.screen.height < 0x100000000) (hReady : runner.machine.isEnd = false)
    (hFault : (runner.machine.step playerRig.interpreter).fault = none) (stage : Stage) :
    ∃ after screen,
      { runner with
        machine := (runner.machine.step playerRig.interpreter).state
        steps := runner.steps + 1 }.redrawThen playerRig stage =
          { runner with machine := after, screen, steps := runner.steps + 1, stage } ∧
        Playing geometry loaded after screen (runner.steps + 1) := by
  obtain ⟨⟨direct, hLeads, hDirect⟩, hFormed, hShows⟩ := h
  have hPending : runner.machine.work.console.pending = RefreshMask.nothing := by
    rw [hDirect]
    rfl
  have hStepped : WellFormed geometry (runner.machine.step Player.interpreter).state :=
    (step_spec hFormed).1
  obtain ⟨drawn, hRedraw, hSynced⟩ := @synced_redrawThen _ playerRig id geometry
    { runner with
      machine := (runner.machine.step Player.interpreter).state
      steps := runner.steps + 1 }
    rfl hStepped hHeight _ hShows hFormed.size_eq (covers_step hFormed hPending) stage
  have hSettled : runner.machine.settled = direct.settled := by
    rw [hDirect]
    rfl
  obtain ⟨hSame, hFaults⟩ := settled_step hSettled
  rw [hDirect] at hReady
  exact ⟨_, drawn, hRedraw, ⟨_, hLeads.step hReady (hFaults.symm.trans hFault), hSame⟩,
    hSynced.formed, hSynced.shows⟩

theorem over_of_isEnd (h : Playing geometry loaded machine screen steps)
    (hEnd : machine.isEnd = true) :
    ∃ result, result.fault = none ∧ Over geometry loaded machine screen steps result := by
  obtain ⟨⟨direct, hLeads, rfl⟩, hFormed, hShows⟩ := h
  refine ⟨⟨direct, steps, none⟩, rfl, ?_⟩
  exact
    { run_eq := fun _ hLimit => hLeads.run_of_isEnd hEnd (Nat.le_of_lt hLimit)
      made_eq := rfl
      ended := hEnd
      work_eq := rfl
      formed := hFormed
      shows := hShows }

theorem over_of_fault (h : Playing geometry loaded machine screen steps)
    (hReady : machine.isEnd = false) {e : MachineError}
    (hFault : (machine.step Player.interpreter).fault = some e) :
    ∃ result, result.fault = some e ∧
      Over geometry loaded (machine.step Player.interpreter).state screen steps result := by
  obtain ⟨⟨direct, hLeads, hDirect⟩, hFormed, hShows⟩ := h
  have hSettled : machine.settled = direct.settled := by
    rw [hDirect]
    rfl
  obtain ⟨hSame, hFaults⟩ := settled_step hSettled
  obtain ⟨hWork, hEnd⟩ := step_of_fault hFormed (by rw [hFault]; exact Option.some_ne_none e)
  have hStill : machine.work = machine.work.onConsole Console.settlePending := by
    rw [hDirect]
    rfl
  rw [hDirect] at hReady
  refine ⟨⟨(direct.step Player.interpreter).state, steps + 1, some e⟩, rfl, ?_⟩
  exact
    { run_eq := fun _ hLimit => hLeads.run_of_fault hReady (hFaults.symm.trans hFault) hLimit
      made_eq := rfl
      ended := (congrArg Machine.isEnd hSame).symm.trans hEnd
      work_eq := by
        calc (machine.step Player.interpreter).state.work
            = machine.work.onConsole Console.settlePending := hWork.trans hStill
          _ = (machine.step Player.interpreter).state.work.onConsole Console.settlePending := by
              rw [hWork]
          _ = (direct.step Player.interpreter).state.work.onConsole Console.settlePending :=
              congrArg Machine.work hSame
      formed := (step_spec hFormed).1
      shows := by rwa [hWork] }

end Playing

theorem playing_of_load (h : WellFormed geometry machine)
    (hHeight : geometry.screen.height < 0x100000000) (program : Program) (name : String)
    (hMachine : runner.machine = machine.prepare Player.interpreter)
    (hScreen : runner.screen = Lcd.ofSize name geometry.screen) (stage : Stage) :
    ∃ after screen,
      { runner with
        machine := (runner.machine.takeOver playerRig.interpreter program).state.onConsole
          fun console => console.requestRefresh RefreshMask.everything
        }.redrawThen playerRig stage = { runner with machine := after, screen, stage } ∧
        Playing geometry (machine.load Player.interpreter program).state after screen 0 := by
  obtain ⟨hLoaded, -, hConsole⟩ := load_spec h program
  obtain ⟨hPending, hZero⟩ := Console.setScreen_blank machine.work.clearAll.console _
  rw [← hConsole] at hPending hZero
  have hBlank : runner.screen.Shows
      (machine.load Player.interpreter program).state.work.console.reached := by
    have hCells : ∀ value ∈ (machine.load Player.interpreter program).state.work.console.reached
      |>.grid.cells, value = 0 := hZero
    rw [hScreen, ← hLoaded.size_eq]
    exact Lcd.shows_ofSize hCells name
  obtain ⟨drawn, hRedraw, hSynced⟩ := @synced_of_everything _ playerRig id geometry
    { runner with machine := (machine.load Player.interpreter program).state }
    rfl hLoaded hHeight hPending _ hBlank hLoaded.size_eq stage
  rw [hMachine]
  exact ⟨_, drawn, hRedraw, ⟨_, .refl _, rfl⟩, hSynced.formed, hSynced.shows⟩

/-- What has become of the program where the worker stands. -/
def Course (geometry : Geometry) (machine : Machine Player) (program : Program) (name : String)
    (faulted : Prop) (commands : List Command) (now : Machine Player) (screen : Lcd)
    (steps : Nat) : Stage → Prop
  | .fetching | .waiting => ¬ faulted ∧
    (commands = [.load program] ∧ now = machine ∧ screen = Lcd.ofSize name geometry.screen ∧
        steps = 0 ∨
      commands = [] ∧
        Playing geometry (machine.load Player.interpreter program).state now screen steps)
  | .applying (.load other :: batch) => batch = [] ∧ ¬ faulted ∧ commands = [] ∧
    other = program ∧ now = machine ∧ screen = Lcd.ofSize name geometry.screen ∧ steps = 0
  | .loading other batch => batch = [] ∧ ¬ faulted ∧ commands = [] ∧ other = program ∧
    now = machine.prepare Player.interpreter ∧ screen = Lcd.ofSize name geometry.screen ∧ steps = 0
  | .reporting batch | .starting batch => batch = [] ∧ ¬ faulted ∧ commands = [] ∧
    Playing geometry (machine.load Player.interpreter program).state now screen steps
  | .applying [] | .chosen => ¬ faulted ∧ commands = [] ∧
    Playing geometry (machine.load Player.interpreter program).state now screen steps
  | .stepping => ¬ faulted ∧ commands = [] ∧ now.isEnd = false ∧
    Playing geometry (machine.load Player.interpreter program).state now screen steps
  | .faulting => ¬ faulted ∧ ∃ result, result.fault.isSome = true ∧
    Over geometry (machine.load Player.interpreter program).state now screen steps result
  | .closing | .finishing | .gone false => ∃ result, (faulted ↔ result.fault.isSome = true) ∧
    Over geometry (machine.load Player.interpreter program).state now screen steps result
  | .gone true => True
  | _ => False

section Way
variable {faulted : Prop}

theorem Course.notified {commands : List Command} {now : Machine Player} {screen : Lcd}
    {steps : Nat} {stage : Stage}
    (h : Course geometry machine program name faulted commands now screen steps stage) :
    Course geometry machine program name faulted commands now screen steps stage.notified := by
  cases stage with
  | resting => exact h.elim
  | _ => exact h

theorem Course.turn (hMachine : WellFormed geometry machine)
    (hHeight : geometry.screen.height < 0x100000000)
    (h : Course geometry machine program name faulted runner.control.commands runner.machine
      runner.screen runner.steps runner.stage)
    (turn : Turn playerRig runner next)
    (hLive : runner.stage.leaving = false → runner.control.live = true)
    (hOpen : runner.control.state ≠ .exited) (hSilent : runner.stage ≠ .faulting) :
    Course geometry machine program name faulted next.control.commands next.machine next.screen
      next.steps next.stage := by
  cases turn with
  | leave hStage hReason =>
    obtain hDead | ⟨-, hExited⟩ := hReason
    · cases hDead.symm.trans (hLive (by rw [hStage]; rfl))
    · exact absurd hExited hOpen
  | take hStage _ hSome =>
    rw [hStage] at h
    obtain ⟨hQuiet, ⟨hQueued, hFresh⟩ | ⟨hNone, -⟩⟩ := h
    · rw [hQueued]
      exact ⟨rfl, hQuiet, rfl, rfl, hFresh⟩
    · exact absurd hNone hSome
  | choose hStage _ hNone | wait hStage _ hNone =>
    rw [hStage] at h
    obtain ⟨hQuiet, ⟨hQueued, -⟩ | ⟨-, hPlaying⟩⟩ := h
    · cases hQueued.symm.trans hNone
    · first
      | exact ⟨hQuiet, hNone, hPlaying⟩
      | exact ⟨hQuiet, .inr ⟨hNone, hPlaying⟩⟩
  | begin hStage hReady =>
    rw [hStage] at h
    obtain ⟨hQuiet, hNone, hPlaying⟩ := h
    refine ⟨hQuiet, hNone, ?_, hPlaying⟩
    rw [isEnd, hReady]
    rfl
  | quit hStage hEnded hExit =>
    rw [hStage] at h
    obtain ⟨hQuiet, -, hPlaying⟩ := h
    obtain ⟨result, hNone, hOver⟩ := hPlaying.over_of_isEnd (by rw [isEnd, hEnded]; rfl)
    refine ⟨result, ?_, hOver⟩
    rw [hNone]
    exact ⟨fun hFaulted => absurd hFaulted hQuiet, fun hNone => Bool.noConfusion hNone⟩
  | idle _ _ hExit => cases hExit
  | look hStage | rest hStage | misfit hStage | resized hStage | reject hStage =>
    rw [hStage] at h
    exact h.elim
  | stepped hStage hFault =>
    rw [hStage] at h
    obtain ⟨hQuiet, hNone, hReady, hPlaying⟩ := h
    obtain ⟨after, screen, hRedraw, hAfter⟩ := hPlaying.step hHeight hReady hFault .fetching
    rw [hRedraw]
    exact ⟨hQuiet, .inr ⟨hNone, hAfter⟩⟩
  | stumbled hStage hFault =>
    rw [hStage] at h
    obtain ⟨hQuiet, -, hReady, hPlaying⟩ := h
    obtain ⟨e, hError⟩ := Option.ne_none_iff_exists'.mp hFault
    obtain ⟨result, hSome, hOver⟩ := hPlaying.over_of_fault hReady hError
    exact ⟨hQuiet, result, by rw [hSome]; rfl, hOver⟩
  | applied hStage =>
    rw [hStage] at h
    obtain ⟨hQuiet, hNone, hPlaying⟩ := h
    exact ⟨hQuiet, .inr ⟨hNone, hPlaying⟩⟩
  | prepare hStage =>
    rw [hStage] at h
    obtain ⟨hAlone, hQuiet, hNone, hSame, hHere, hFresh⟩ := h
    exact ⟨hAlone, hQuiet, hNone, hSame, congrArg (Machine.prepare Player.interpreter) hHere,
      hFresh⟩
  | @loaded other batch hStage hFault =>
    rw [hStage] at h
    obtain ⟨rfl, hQuiet, hNone, rfl, hHere, hScreen, hSteps⟩ := h
    obtain ⟨after, screen, hRedraw, hAfter⟩ :=
      playing_of_load hMachine hHeight other name hHere hScreen (.reporting [])
    rw [hRedraw]
    rw [← hSteps] at hAfter
    exact ⟨rfl, hQuiet, hNone, hAfter⟩
  | @refused other batch hStage hFault =>
    rw [hStage] at h
    obtain ⟨-, -, -, -, hHere, -⟩ := h
    rw [hHere] at hFault
    exact absurd (load_spec hMachine other).2.1 hFault
  | report hStage =>
    rw [hStage] at h
    exact h
  | start hStage =>
    rw [hStage] at h
    obtain ⟨rfl, hQuiet, hNone, hPlaying⟩ := h
    exact ⟨hQuiet, (Control.commands_startLoaded _).trans hNone, hPlaying⟩
  | fault hStage => exact absurd hStage hSilent
  | dispose hStage =>
    rw [hStage] at h
    obtain ⟨result, hNoted, hOver⟩ := h
    exact ⟨result, hNoted, hOver.run_eq, hOver.made_eq, hOver.ended, hOver.work_eq, hOver.formed,
      hOver.shows⟩
  | finish hStage =>
    rw [hStage] at h
    exact h

end Way

end Runner
end Handheld
