import Handheld.Proofs.Machine.Traced
import Handheld.Proofs.Player.Upkeep

/-! # Steps that fail

The player decodes an instruction before it carries it out, and its words can always be written. A
step that fails has therefore changed nothing in the workspace, and all it does is end the program.
-/
set_option autoImplicit false
namespace Handheld
namespace Machine

variable {runtime : Nat} {machine : Machine Player}

/-- Two things make a step fail: there is no program to step, or its text cannot be decoded. -/
theorem Furnished.step_of_fault (h : Furnished runtime machine) {e : MachineError}
    (hFault : (machine.step Player.interpreter).fault = some e) :
    (machine.step Player.interpreter).state = { machine with phase := .ended } ∧
      (machine.phase = .ended ∧ e = .notLoaded ∨ machine.phase = .ready ∧
        Instruction.decode machine.interp.text machine.interp.place = .error e) := by
  have hStepped := h.stepped
  generalize machine.step Player.interpreter = attempt at hStepped hFault
  cases hStepped with
  | refused hPhase =>
    cases hFault
    refine ⟨?_, .inl ⟨hPhase, rfl⟩⟩
    rw [← hPhase]
    rfl
  | undecoded hPhase hDecode =>
    cases hFault
    exact ⟨rfl, .inr ⟨hPhase, hDecode⟩⟩
  | finished | performed => cases hFault

theorem ended_run (h : machine.phase = .ended) {call : Call}
    (hCall : ∀ program, call ≠ .load program) : (call.run machine).state.phase = .ended := by
  cases call with
  | load program => exact absurd rfl (hCall program)
  | step =>
    rw [Call.run, step_of_ended h]
    exact h
  | dispose => rfl
  | setScreen size => exact (machine.phase_setScreen size).trans h

theorem ended_after (h : machine.phase = .ended) {calls : List Call}
    (hCalls : ∀ program, Call.load program ∉ calls) : (machine.after calls).phase = .ended := by
  induction calls generalizing machine with
  | nil => exact h
  | cons call rest ih =>
    refine ih (ended_run h ?_) fun program hMember => hCalls program (.tail call hMember)
    rintro program rfl
    exact hCalls program (.head rest)

/-- Whatever was called before, a step that fails leaves memory, its layout and frame window, the
console and the name of the program as they were. The program has ended, and up to the next load
every further step is refused. The fault is that of a machine without a program or of a text that
cannot be decoded, never one of the memory. -/
theorem fault_of_step {geometry : Geometry} (hRange : geometry.InRange)
    (hCreate : create geometry Player.idle = .ok machine) {calls : List Call}
    (hCalls : ∀ call ∈ calls, call.InRange) {e : MachineError}
    (hFault : ((machine.after calls).step Player.interpreter).fault = some e) :
    let before := machine.after calls
    let failed := (before.step Player.interpreter).state
    failed.work = before.work ∧ failed.program = before.program ∧ failed.isEnd = true ∧
    (∀ later : List Call, (∀ program, Call.load program ∉ later) →
      ((failed.after later).step Player.interpreter).fault = some .notLoaded) ∧
    (before.isEnd = true ∧ e = .notLoaded ∨ before.isEnd = false ∧
      Instruction.decode before.interp.text before.interp.place = .error e) := by
  intro before failed
  obtain ⟨hState, hCause⟩ := (furnished_of_calls hRange hCreate hCalls).step_of_fault hFault
  have hFailed : failed = { before with phase := .ended } := hState
  rw [hFailed]
  refine ⟨rfl, rfl, rfl, fun later hLater => ?_, ?_⟩
  · rw [step_of_ended (ended_after rfl hLater)]
    rfl
  · rcases hCause with ⟨hEnded, hNone⟩ | ⟨hReady, hDecode⟩
    · exact .inl ⟨by rw [isEnd, hEnded]; rfl, hNone⟩
    · exact .inr ⟨by rw [isEnd, hReady]; rfl, hDecode⟩

/-- The second byte of a wide character is missing, on a machine whose screen could not be set. -/
theorem fault_of_halfCharacter :
    let calls : List Call := [.setScreen ⟨5, 32⟩, .load ⟨"half", #[0x61, 0xa1]⟩, .step]
    ∃ machine, create narrowGeometry Player.idle = .ok machine ∧
      let before := machine.after calls
      let failed := before.step Player.interpreter
      failed.fault = some (.badProgram (.cutOff 2)) ∧ failed.state.work = before.work ∧
        failed.state.program = before.program ∧
        ((failed.state.after [.setScreen ⟨6, 26⟩]).step Player.interpreter).fault =
          some .notLoaded := by
  intro calls
  have hRange : narrowGeometry.InRange := by decide
  have hCalls : ∀ call ∈ calls, call.InRange := by decide +revert
  have hRun : ∃ machine, create narrowGeometry Player.idle = .ok machine ∧
      ((machine.after calls).step Player.interpreter).fault =
        some (.badProgram (.cutOff 2)) := by
    refine ⟨_, rfl, ?_⟩
    decide +kernel
  obtain ⟨machine, hCreate, hFault⟩ := hRun
  obtain ⟨hWork, hProgram, -, hLater, -⟩ := fault_of_step hRange hCreate hCalls hFault
  exact ⟨machine, hCreate, hFault, hWork, hProgram, hLater [.setScreen ⟨6, 26⟩] (by simp)⟩

end Machine
end Handheld
