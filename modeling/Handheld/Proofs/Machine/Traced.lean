import Handheld.Machine.Basic

/-! # Traced interpreters

A traced interpreter writes down each of its calls with what came of it, the latest call first, and
otherwise does what the interpreter does. Every operation of a machine adds the calls it makes to
the trace, and the phase of the machine follows from them.
-/
set_option autoImplicit false
namespace Handheld

inductive CallOutcome
  | failed
  | unfinished
  | finished
  deriving DecidableEq

inductive InterpreterCall
  | load (outcome : CallOutcome)
  | step (outcome : CallOutcome)
  | dispose
  deriving DecidableEq

structure Traced (ι : Type) where
  inner : ι
  calls : List InterpreterCall

def CallOutcome.phase : CallOutcome → Phase
  | unfinished => .ready
  | failed | finished => .ended

namespace Interpreter
variable {ι : Type} (interpreter : Interpreter ι)

def outcome (attempt : Attempt MachineError (ι × Workspace)) : CallOutcome :=
  match attempt.fault with
  | some _ => .failed
  | none => if interpreter.finished attempt.state.1 then .finished else .unfinished

def note (call : CallOutcome → InterpreterCall) (earlier : List InterpreterCall)
    (attempt : Attempt MachineError (ι × Workspace)) :
    Attempt MachineError (Traced ι × Workspace) :=
  attempt.map fun (inner, work) => (⟨inner, call (interpreter.outcome attempt) :: earlier⟩, work)

def traced : Interpreter (Traced ι) where
  load program
    | (⟨inner, calls⟩, work) =>
      interpreter.note .load calls (interpreter.load program (inner, work))
  step
    | (⟨inner, calls⟩, work) => interpreter.note .step calls (interpreter.step (inner, work))
  finished state := interpreter.finished state.inner
  dispose
    | ⟨inner, calls⟩ => ⟨interpreter.dispose inner, .dispose :: calls⟩

variable {interpreter} {attempt : Attempt MachineError (ι × Workspace)}

theorem outcome_eq_failed_iff : interpreter.outcome attempt = .failed ↔ attempt.fault ≠ none := by
  rw [outcome]
  cases attempt.fault with
  | some e => simp
  | none =>
    dsimp only
    split
    · simp
    · simp

theorem phase_outcome (h : attempt.fault = none) :
    (interpreter.outcome attempt).phase = Machine.phaseOf interpreter attempt.state.1 := by
  rw [outcome, h, Machine.phaseOf]
  dsimp only
  split
  · rfl
  · rfl

end Interpreter

namespace Machine
variable {ι : Type}

theorem step_of_ended {interpreter : Interpreter ι} {machine : Machine ι}
    (h : machine.phase = .ended) : machine.step interpreter = .stopped .notLoaded machine := by
  obtain ⟨interp, work, phase, program⟩ := machine
  obtain rfl : phase = .ended := h
  rfl

section Phase
variable (interpreter : Interpreter ι) (machine : Machine ι)

theorem phase_prepare : (machine.prepare interpreter).phase = .ended := by
  rw [prepare, isEnd]
  cases hPhase : machine.phase with
  | ended => exact hPhase
  | ready => rfl

theorem setScreen_state_eq (size : PixelSize) :
    ∃ space, (machine.setScreen size).state =
      { machine with work := ⟨space, machine.work.console.setScreen size⟩ } := by
  rw [setScreen]
  dsimp only
  split
  · exact ⟨_, rfl⟩
  · exact ⟨_, rfl⟩

theorem interp_setScreen (size : PixelSize) :
    (machine.setScreen size).state.interp = machine.interp := by
  obtain ⟨space, hState⟩ := machine.setScreen_state_eq size
  rw [hState]

theorem phase_setScreen (size : PixelSize) :
    (machine.setScreen size).state.phase = machine.phase := by
  obtain ⟨space, hState⟩ := machine.setScreen_state_eq size
  rw [hState]

theorem takeOver_of_load (program : Program) :
    let made := interpreter.load program (machine.interp, machine.work)
    let attempt := machine.takeOver interpreter program
    attempt.fault = made.fault ∧ attempt.state.interp = made.state.1 ∧
      attempt.state.phase =
        if made.fault = none then phaseOf interpreter made.state.1 else machine.phase := by
  intro made attempt
  simp only [attempt, takeOver]
  split
  · rename_i e hFault
    have hSome : made.fault ≠ none := by simp [made, hFault]
    exact ⟨hFault.symm, rfl, (if_neg hSome).symm⟩
  · rename_i hFault
    exact ⟨hFault.symm, rfl, (if_pos hFault).symm⟩

theorem step_of_ready (hReady : machine.phase = .ready) :
    let made := interpreter.step (machine.interp, machine.work)
    let attempt := machine.step interpreter
    attempt.fault = made.fault ∧ attempt.state.interp = made.state.1 ∧
      attempt.state.phase =
        if made.fault = none then phaseOf interpreter made.state.1 else .ended := by
  intro made attempt
  simp only [attempt, step, hReady]
  split
  · rename_i e hFault
    have hSome : made.fault ≠ none := by simp [made, hFault]
    exact ⟨hFault.symm, rfl, (if_neg hSome).symm⟩
  · rename_i hFault
    exact ⟨hFault.symm, rfl, (if_pos hFault).symm⟩

end Phase

variable (interpreter : Interpreter ι) (machine : Machine (Traced ι))

def calls : List InterpreterCall := machine.interp.calls

theorem calls_prepare :
    (machine.prepare interpreter.traced).calls =
      if machine.phase = .ended then machine.calls else .dispose :: machine.calls := by
  rw [prepare, isEnd]
  cases hPhase : machine.phase with
  | ended => rfl
  | ready => rfl

theorem takeOver_traced (program : Program) :
    let attempt := machine.takeOver interpreter.traced program
    ∃ outcome, attempt.state.calls = .load outcome :: machine.calls ∧
      (outcome = .failed ↔ attempt.fault ≠ none) ∧
      attempt.state.phase = if outcome = .failed then machine.phase else outcome.phase := by
  intro attempt
  let made := interpreter.load program (machine.interp.inner, machine.work)
  obtain ⟨hFault, hInterp, hPhase⟩ := takeOver_of_load interpreter.traced machine program
  have hFailed : interpreter.outcome made = .failed ↔ made.fault ≠ none :=
    Interpreter.outcome_eq_failed_iff
  refine ⟨interpreter.outcome made, congrArg Traced.calls hInterp, hFailed.trans ?_, ?_⟩
  · exact not_congr (iff_of_eq (congrArg (· = none) hFault.symm))
  · refine hPhase.trans ?_
    by_cases hNone : made.fault = none
    · have hDone : interpreter.outcome made ≠ .failed := fun hFail => hFailed.mp hFail hNone
      rw [if_neg hDone, Interpreter.phase_outcome hNone]
      exact if_pos hNone
    · rw [if_pos (hFailed.mpr hNone)]
      exact if_neg hNone

theorem step_traced (hReady : machine.phase = .ready) :
    let attempt := machine.step interpreter.traced
    ∃ outcome, attempt.state.calls = .step outcome :: machine.calls ∧
      (outcome = .failed ↔ attempt.fault ≠ none) ∧ attempt.state.phase = outcome.phase := by
  intro attempt
  let made := interpreter.step (machine.interp.inner, machine.work)
  obtain ⟨hFault, hInterp, hPhase⟩ := step_of_ready interpreter.traced machine hReady
  have hFailed : interpreter.outcome made = .failed ↔ made.fault ≠ none :=
    Interpreter.outcome_eq_failed_iff
  refine ⟨interpreter.outcome made, congrArg Traced.calls hInterp, hFailed.trans ?_, ?_⟩
  · exact not_congr (iff_of_eq (congrArg (· = none) hFault.symm))
  · refine hPhase.trans ?_
    by_cases hNone : made.fault = none
    · rw [Interpreter.phase_outcome hNone]
      exact if_pos hNone
    · rw [hFailed.mpr hNone]
      exact if_neg hNone

theorem calls_step :
    let attempt := machine.step interpreter.traced
    attempt.state.calls = machine.calls ∨
      ∃ outcome, attempt.state.calls = .step outcome :: machine.calls := by
  intro attempt
  by_cases hReady : machine.phase = .ready
  · obtain ⟨outcome, hCalls, -⟩ := step_traced interpreter machine hReady
    exact .inr ⟨outcome, hCalls⟩
  · obtain ⟨interp, work, phase, program⟩ := machine
    cases phase with
    | ready => exact absurd rfl hReady
    | ended => exact .inl rfl

def traced (machine : Machine ι) : Machine (Traced ι) where
  interp := ⟨machine.interp, if machine.isEnd then [] else [.load .unfinished]⟩
  work := machine.work
  phase := machine.phase
  program := machine.program

def untraced : Machine ι where
  interp := machine.interp.inner
  work := machine.work
  phase := machine.phase
  program := machine.program

theorem untraced_prepare :
    (machine.prepare interpreter.traced).untraced = machine.untraced.prepare interpreter := by
  obtain ⟨⟨inner, calls⟩, work, phase, program⟩ := machine
  cases phase with
  | ready => rfl
  | ended => rfl

theorem untraced_takeOver (program : Program) :
    (machine.takeOver interpreter.traced program).map untraced =
      machine.untraced.takeOver interpreter program := by
  obtain ⟨⟨inner, calls⟩, work, phase, old⟩ := machine
  have hMade : interpreter.traced.load program (⟨inner, calls⟩, work) =
      interpreter.note .load calls (interpreter.load program (inner, work)) := rfl
  simp only [takeOver, untraced, hMade, Interpreter.note, Attempt.map]
  split
  · rfl
  · rfl

theorem untraced_step :
    (machine.step interpreter.traced).map untraced = machine.untraced.step interpreter := by
  obtain ⟨⟨inner, calls⟩, work, phase, program⟩ := machine
  cases phase with
  | ended => rfl
  | ready =>
    have hMade : interpreter.traced.step (⟨inner, calls⟩, work) =
        interpreter.note .step calls (interpreter.step (inner, work)) := rfl
    simp only [step, untraced, hMade, Interpreter.note, Attempt.map]
    split
    · rfl
    · rfl

theorem untraced_setScreen (size : PixelSize) :
    (machine.setScreen size).map untraced = machine.untraced.setScreen size := by
  by_cases hSame : size = machine.work.console.size
  · rw [setScreen, setScreen, if_pos hSame]
    exact (if_pos hSame).symm
  · rw [setScreen, setScreen, if_neg hSame]
    exact (if_neg hSame).symm

end Machine
end Handheld
