import Handheld.Machine.Counted
import Handheld.Proofs.Player.Machine

/-! # Interpreters that refuse calls

An interpreter plays text if, through a view of its state, each of its calls is one of the text
player's, except for loads and steps that it refuses untried. Of its machine the same is true: seen
as a machine of the player it goes on like one, or stays what it was.
-/
set_option autoImplicit false
namespace Handheld

/-- Through the view, a call does what one of the player does, or fails before doing anything. -/
def Player.Imitates {ι : Type} (player : ι → Player)
    (call : ι × Workspace → Attempt MachineError (ι × Workspace))
    (original : Player × Workspace → Attempt MachineError (Player × Workspace)) : Prop :=
  ∀ interp work,
    let seen := (call (interp, work)).map (Prod.map player id)
    (∃ e, seen = .stopped e (player interp, work)) ∨ seen = original (player interp, work)

/-- The interpreter is the text player with some calls refused. -/
structure Interpreter.PlaysText {ι : Type} (interpreter : Interpreter ι) (player : ι → Player) :
    Prop where
  load : ∀ program, Player.Imitates player (interpreter.load program) (Player.load program)
  step : Player.Imitates player interpreter.step Player.step
  finished_eq : ∀ interp, interpreter.finished interp = (player interp).finished
  dispose_eq : ∀ interp, player (interpreter.dispose interp) = (player interp).dispose

namespace Player.Imitates
variable {ι : Type} {player : ι → Player}
  {call : ι × Workspace → Attempt MachineError (ι × Workspace)}
  {original : Player × Workspace → Attempt MachineError (Player × Workspace)}

theorem cases (h : Imitates player call original) (interp : ι) (work : Workspace) :
    let made := call (interp, work)
    let expected := original (player interp, work)
    (∃ e, made.fault = some e ∧ player made.state.1 = player interp ∧ made.state.2 = work) ∨
      made.fault = expected.fault ∧ player made.state.1 = expected.state.1 ∧
        made.state.2 = expected.state.2 := by
  intro made expected
  obtain ⟨e, hRefused⟩ | hSame := h interp work
  · refine .inl ⟨e, congrArg Attempt.fault hRefused, ?_, ?_⟩
    · exact congrArg (fun attempt => attempt.state.1) hRefused
    · exact congrArg (fun attempt => attempt.state.2) hRefused
  · refine .inr ⟨congrArg Attempt.fault hSame, ?_, ?_⟩
    · exact congrArg (fun attempt => attempt.state.1) hSame
    · exact congrArg (fun attempt => attempt.state.2) hSame

end Player.Imitates

namespace Counted

theorem imitates_call (refused : List Nat) (note : String)
    (original : Player × Workspace → Attempt MachineError (Player × Workspace)) :
    Player.Imitates inner (call refused note original) original := by
  rintro ⟨player, calls, disposals⟩ work
  by_cases hRefused : calls ∈ refused
  · left
    refine ⟨.badProgram (.other note), ?_⟩
    rw [call, if_pos hRefused]
    rfl
  · right
    rw [call, if_neg hRefused]
    rfl

theorem playsText (refused : List Nat) (note : String) :
    (Player.interpreter.counted refused note).PlaysText inner where
  load program := imitates_call refused note (Player.load program)
  step := imitates_call refused note Player.step
  finished_eq _ := rfl
  dispose_eq _ := rfl

end Counted

namespace Machine
variable {ι : Type}

def played (player : ι → Player) : Machine ι → Machine Player
  | ⟨interp, work, phase, program⟩ => ⟨player interp, work, phase, program⟩

@[simp] theorem work_played (player : ι → Player) (machine : Machine ι) :
    (machine.played player).work = machine.work := rfl

variable {interpreter : Interpreter ι} {player : ι → Player}

theorem played_create {geometry : Geometry} {interp : ι} {machine : Machine ι}
    (hCreate : create geometry interp = .ok machine) (player : ι → Player) :
    create geometry (player interp) = .ok (machine.played player) := by
  rw [create] at hCreate ⊢
  split at hCreate
  · cases hCreate
  · cases hCreate
    rfl

theorem played_setScreen (player : ι → Player) (size : PixelSize) (machine : Machine ι) :
    (machine.setScreen size).map (played player) = (machine.played player).setScreen size := by
  by_cases hSame : size = machine.work.console.size
  · have hSeen : size = (machine.played player).work.console.size := hSame
    rw [setScreen, setScreen, if_pos hSame, if_pos hSeen]
    rfl
  · have hSeen : size ≠ (machine.played player).work.console.size := hSame
    rw [setScreen, setScreen, if_neg hSame, if_neg hSeen]
    rfl

variable (hPlays : interpreter.PlaysText player)
include hPlays

theorem played_prepare (machine : Machine ι) :
    (machine.prepare interpreter).played player =
      (machine.played player).prepare Player.interpreter := by
  obtain ⟨interp, work, phase, program⟩ := machine
  cases phase with
  | ended => rfl
  | ready =>
    have hDispose : player (interpreter.dispose interp) = (player interp).dispose :=
      hPlays.dispose_eq interp
    exact congrArg (fun player : Player => Machine.mk player
      (work.clearAll.onConsole fun console => console.setScreen console.size) .ended none) hDispose

theorem phaseOf_eq (interp : ι) :
    phaseOf interpreter interp = phaseOf Player.interpreter (player interp) := by
  rw [phaseOf, hPlays.finished_eq]
  rfl

theorem takeOver_cases (program : Program) (machine : Machine ι) :
    let taken := (machine.takeOver interpreter program).map (played player)
    (∃ e, taken = .stopped e (machine.played player)) ∨
      taken = (machine.played player).takeOver Player.interpreter program := by
  obtain ⟨interp, work, phase, old⟩ := machine
  have hOriginal : Player.interpreter.load program (player interp, work) =
      Player.load program (player interp, work) := rfl
  simp only [takeOver, played, hOriginal]
  obtain ⟨e, hFault, hPlayer, hWork⟩ | ⟨hFault, hPlayer, hWork⟩ :=
    (hPlays.load program).cases interp work
  · left
    refine ⟨e, ?_⟩
    simp only [hFault, Attempt.map, Attempt.stopped, played, hPlayer, hWork]
  · right
    rw [hFault]
    cases (Player.load program (player interp, work)).fault with
    | some e => simp only [Attempt.map, Attempt.stopped, played, hPlayer, hWork]
    | none => simp only [Attempt.map, Attempt.done, played, phaseOf_eq hPlays, hPlayer, hWork]

theorem played_step {machine : Machine ι} (hFault : (machine.step interpreter).fault = none) :
    (machine.step interpreter).map (played player) =
      (machine.played player).step Player.interpreter := by
  obtain ⟨interp, work, phase, program⟩ := machine
  cases phase with
  | ended => rfl
  | ready =>
    have hOriginal : Player.interpreter.step (player interp, work) =
        Player.step (player interp, work) := rfl
    simp only [step, played, hOriginal] at hFault ⊢
    obtain ⟨e, hRefused, -⟩ | ⟨hSame, hPlayer, hWork⟩ := hPlays.step.cases interp work
    · rw [hRefused] at hFault
      cases hFault
    · rw [hSame]
      cases (Player.step (player interp, work)).fault with
      | some e => simp only [Attempt.map, Attempt.stopped, played, hPlayer, hWork]
      | none => simp only [Attempt.map, Attempt.done, played, phaseOf_eq hPlays, hPlayer, hWork]

end Machine
end Handheld
