import Handheld.Machine.Basic
import Handheld.Proofs.Player.Frame

/-! # Machines that play text

A machine with the text player is well formed if its workspace is assembled and its frame window
begins where memory does. Every call to the machine keeps it so, also a call that fails, and on the
console a call does no more than the player or the host asked for.
-/
set_option autoImplicit false
namespace Handheld
open Workspace

namespace Machine

/-- The machine has the memory of a geometry, and its window was never moved. -/
def WellFormed (geometry : Geometry) (machine : Machine Player) : Prop :=
  ∃ contents : Contents, contents.window.start = 0 ∧ Assembled geometry contents machine.work

variable {geometry : Geometry} {machine : Machine Player}

theorem isEnd_phaseOf (player : Player) (work : Workspace) (program : Option String) :
    isEnd ⟨player, work, phaseOf Player.interpreter player, program⟩ = player.finished := by
  have hFinished : Player.interpreter.finished player = player.finished := rfl
  rw [phaseOf, hFinished]
  cases player.finished
  all_goals rfl

theorem WellFormed.sound (h : WellFormed geometry machine) : machine.work.console.Sound := by
  obtain ⟨_, _, hAssembled⟩ := h
  exact hAssembled.sound

theorem WellFormed.size_eq (h : WellFormed geometry machine) :
    machine.work.console.size = geometry.screen := by
  obtain ⟨_, _, hAssembled⟩ := h
  exact hAssembled.screen_eq

theorem WellFormed.settle (h : WellFormed geometry machine) :
    WellFormed geometry (machine.onConsole Console.settlePending) := by
  obtain ⟨contents, hStart, hAssembled⟩ := h
  exact ⟨contents, hStart,
    hAssembled.withConsole ⟨rfl, rfl⟩ (hAssembled.sound.apply .settlePending)⟩

theorem wellFormed_create (hRange : geometry.InRange) {player : Player}
    (hCreate : create geometry player = .ok machine) : WellFormed geometry machine :=
  ⟨_, rfl, assembled_create hRange hCreate⟩

theorem WellFormed.prepare (h : WellFormed geometry machine) :
    WellFormed geometry (machine.prepare Player.interpreter) := by
  obtain ⟨contents, hStart, hAssembled⟩ := h
  refine ⟨contents.zeroed, hStart, ?_⟩
  rw [work_prepare]
  let console := machine.work.clearAll.console
  apply hAssembled.clearAll.withConsole
  · exact @Console.samePage_apply console (.setScreen console.size) (by rintro size ⟨⟩; rfl)
  · exact hAssembled.clearAll.sound.setScreen console.size

theorem load_spec (h : WellFormed geometry machine) (program : Program) :
    WellFormed geometry (machine.load Player.interpreter program).state ∧
    (machine.load Player.interpreter program).fault = none ∧
    (machine.load Player.interpreter program).state.work.console =
      machine.work.clearAll.console.setScreen machine.work.clearAll.console.size := by
  obtain ⟨contents, hStart, hReady⟩ := h.prepare
  have hWork := work_prepare Player.interpreter machine
  rw [load]
  cases hPrepare : machine.prepare Player.interpreter with
  | mk interp work phase old =>
    rw [hPrepare] at hReady hWork
    obtain ⟨other, hOther, hLoaded, hLoad⟩ := Player.load_eq hReady hStart program interp
    have hInterpreter : Player.interpreter.load program (interp, work) = _ := hLoad
    rw [takeOver, hInterpreter]
    refine ⟨⟨other, hOther, hLoaded⟩, rfl, ?_⟩
    dsimp only at hWork
    rw [hWork]
    rfl

theorem step_spec (h : WellFormed geometry machine) :
    WellFormed geometry (machine.step Player.interpreter).state ∧
    ((machine.step Player.interpreter).state.work.console = machine.work.console ∨
      ∃ instruction, (machine.step Player.interpreter).state.work.console =
        Player.perform instruction machine.work.console) := by
  obtain ⟨contents, hStart, hAssembled⟩ := h
  obtain ⟨player, work, phase, program⟩ := machine
  cases phase with
  | ended => exact ⟨⟨contents, hStart, hAssembled⟩, .inl rfl⟩
  | ready =>
    have hInterpreter : Player.interpreter.step (player, work) = Player.step (player, work) := rfl
    simp only [step, hInterpreter]
    rcases Player.step_cases hAssembled hStart player with
      hStill | ⟨e, hStopped⟩ | ⟨instruction, next, other, hShape, hOther, hDone⟩
    · rw [hStill]
      exact ⟨⟨contents, hStart, hAssembled⟩, .inl rfl⟩
    · rw [hStopped]
      exact ⟨⟨contents, hStart, hAssembled⟩, .inl rfl⟩
    · rw [hDone]
      refine ⟨⟨other, ?_, hOther⟩, .inr ⟨instruction, rfl⟩⟩
      rw [hShape.window_eq]
      exact hStart

theorem WellFormed.dispose (h : WellFormed geometry machine) :
    WellFormed geometry (machine.dispose Player.interpreter) := h

theorem WellFormed.setScreen (h : WellFormed geometry machine) {size : PixelSize}
    (hSize : size.InRange) (hOk : (machine.setScreen size).fault = none) :
    WellFormed { geometry with screen := size } (machine.setScreen size).state := by
  obtain ⟨contents, hStart, hAssembled⟩ := h
  by_cases hSame : size = machine.work.console.size
  · have hScreen : geometry = { geometry with screen := size } := by
      rw [hSame, hAssembled.screen_eq]
    rw [setScreen_same hSame, ← hScreen]
    exact ⟨contents, hStart, hAssembled.apply fun other hOther => by cases hOther; exact hSame⟩
  · exact ⟨contents.fitted size _, hStart, (assembled_setScreen hAssembled hSize hSame hOk).2⟩

end Machine
end Handheld
