import Handheld.Machine.Counted
import Handheld.Player.Basic
import Handheld.Proofs.Machine.Traced

/-! # Loads that fail

What a machine tells of its program follows from the calls made of it and how they went. A load that
fails leaves nothing to step, whatever the interpreter. It lets go of a program that could still step,
and of its name; the name of a program that had ended by itself or with a fault stays.
-/
set_option autoImplicit false
namespace Handheld

inductive HostCall
  | load (program : Program)
  | step
  | dispose
  | rework (change : Workspace → Workspace)

/-- What has become of the program loaded last. -/
inductive Fate
  | absent
  | running (name : String)
  | finished (name : String)
  | faulted (name : String)
  deriving DecidableEq

namespace Fate

def name? : Fate → Option String
  | absent => none
  | running name | finished name | faulted name => some name

def phase : Fate → Phase
  | running _ => .ready
  | absent | finished _ | faulted _ => .ended

/-- A load that fails costs a program that could still step. -/
def dropped : Fate → Fate
  | running _ => absent
  | other => other

def loaded (fate : Fate) (name : String) : CallOutcome → Fate
  | .failed => fate.dropped
  | .unfinished => running name
  | .finished => finished name

def stepped : Fate → CallOutcome → Fate
  | running name, .failed => faulted name
  | running name, .finished => finished name
  | fate, _ => fate

def next (fate : Fate) (outcome : CallOutcome) : HostCall → Fate
  | .load program => fate.loaded program.name outcome
  | .step => fate.stepped outcome
  | .dispose => absent
  | .rework _ => fate

theorem phase_dropped (fate : Fate) : fate.dropped.phase = .ended := by
  cases fate with
  | absent | running | finished | faulted => rfl

theorem dropped_eq_absent_iff {fate : Fate} :
    fate.dropped = absent ↔ fate = absent ∨ ∃ name, fate = running name := by
  cases fate with
  | absent | running | finished | faulted => simp [dropped]

theorem name?_dropped_of_ended {fate : Fate} {name : String}
    (h : fate = finished name ∨ fate = faulted name) : fate.dropped.name? = some name := by
  obtain rfl | rfl := h
  · rfl
  · rfl

end Fate

namespace HostCall
variable {ι : Type}

def run (interpreter : Interpreter ι) (machine : Machine ι) :
    HostCall → Attempt MachineError (Machine ι)
  | load program => machine.load interpreter program
  | step => machine.step interpreter
  | dispose => .done (machine.dispose interpreter)
  | rework change => .done { machine with work := change machine.work }

def outcome (attempt : Attempt MachineError (Machine ι)) : CallOutcome :=
  match attempt.fault with
  | some _ => .failed
  | none => if attempt.state.isEnd then .finished else .unfinished

theorem outcome_of_fault {attempt : Attempt MachineError (Machine ι)} (h : attempt.fault ≠ none) :
    outcome attempt = .failed := by
  obtain ⟨e, hFault⟩ := Option.ne_none_iff_exists'.mp h
  rw [outcome, hFault]

theorem outcome_of_done {attempt : Attempt MachineError (Machine ι)} (h : attempt.fault = none) :
    outcome attempt = if attempt.state.phase = .ended then .finished else .unfinished := by
  rw [outcome, h, Machine.isEnd]
  cases attempt.state.phase
  · rfl
  · rfl

end HostCall

/-- A machine and what its calls tell of its program. -/
structure Hosted (ι : Type) where
  machine : Machine ι
  fate : Fate

namespace Hosted
variable {ι : Type}

def start (machine : Machine ι) : Hosted ι := ⟨machine, .absent⟩

def call (interpreter : Interpreter ι) (hosted : Hosted ι) (call : HostCall) : Hosted ι :=
  let attempt := call.run interpreter hosted.machine
  ⟨attempt.state, hosted.fate.next (HostCall.outcome attempt) call⟩

def LoadsFail (interpreter : Interpreter ι) (hosted : Hosted ι) : List HostCall → Prop
  | [] => True
  | call :: rest =>
    (∀ program, call = .load program → (call.run interpreter hosted.machine).fault ≠ none) ∧
      LoadsFail interpreter (hosted.call interpreter call) rest

end Hosted

namespace Machine
variable {ι : Type} {interpreter : Interpreter ι} {machine : Machine ι} {fate : Fate}

/-- The machine tells of its program what the calls tell. -/
structure Tells (machine : Machine ι) (fate : Fate) : Prop where
  phase_eq : machine.phase = fate.phase
  program_eq : machine.program = fate.name?

theorem program_prepare (interpreter : Interpreter ι) (machine : Machine ι) :
    (machine.prepare interpreter).program =
      if machine.phase = .ready then none else machine.program := by
  rw [prepare, isEnd]
  cases hPhase : machine.phase with
  | ended => rfl
  | ready => rfl

theorem program_step (interpreter : Interpreter ι) (machine : Machine ι) :
    (machine.step interpreter).state.program = machine.program := by
  obtain ⟨interp, work, phase, program⟩ := machine
  cases phase with
  | ended => rfl
  | ready =>
    rw [step]
    dsimp only
    split
    · rfl
    · rfl

theorem program_takeOver (interpreter : Interpreter ι) (machine : Machine ι) (program : Program) :
    (machine.takeOver interpreter program).state.program =
      if (machine.takeOver interpreter program).fault = none then some program.name
      else machine.program := by
  cases hMade : (interpreter.load program (machine.interp, machine.work)).fault with
  | none => simp [takeOver, hMade, Attempt.done]
  | some e => simp [takeOver, hMade, Attempt.stopped]

theorem load_of_fault {program : Program} (hFault : (machine.load interpreter program).fault ≠ none) :
    (machine.load interpreter program).state.phase = .ended ∧
      (machine.load interpreter program).state.program =
        if machine.phase = .ready then none else machine.program := by
  obtain ⟨hSame, -, hPhase⟩ := takeOver_of_load interpreter (machine.prepare interpreter) program
  have hMade := hSame ▸ hFault
  rw [if_neg hMade, phase_prepare] at hPhase
  have hProgram := (program_takeOver interpreter (machine.prepare interpreter) program).trans
    (if_neg hFault)
  rw [program_prepare] at hProgram
  exact ⟨hPhase, hProgram⟩

theorem program_load_of_done {program : Program}
    (hDone : (machine.load interpreter program).fault = none) :
    (machine.load interpreter program).state.program = some program.name :=
  (program_takeOver interpreter (machine.prepare interpreter) program).trans (if_pos hDone)

theorem Tells.load (h : Tells machine fate) (program : Program) :
    let attempt := machine.load interpreter program
    Tells attempt.state (fate.loaded program.name (HostCall.outcome attempt)) := by
  intro attempt
  by_cases hDone : attempt.fault = none
  · have hProgram : attempt.state.program = _ := program_load_of_done hDone
    rw [HostCall.outcome_of_done hDone]
    cases hPhase : attempt.state.phase with
    | ended => exact ⟨hPhase, hProgram⟩
    | ready => exact ⟨hPhase, hProgram⟩
  · obtain ⟨hPhase, hProgram⟩ := load_of_fault hDone
    rw [HostCall.outcome_of_fault hDone]
    -- the clean-up depends on whether the old program could step, which its fate says
    rw [h.phase_eq, h.program_eq] at hProgram
    cases fate with
    | absent | running | finished | faulted => exact ⟨hPhase, hProgram⟩

theorem Tells.step (h : Tells machine fate) :
    let attempt := machine.step interpreter
    Tells attempt.state (fate.stepped (HostCall.outcome attempt)) := by
  intro attempt
  have hProgram : attempt.state.program = fate.name? :=
    (program_step interpreter machine).trans h.program_eq
  cases fate with
  | running name =>
    obtain ⟨hFault, -, hPhase⟩ := step_of_ready interpreter machine h.phase_eq
    by_cases hDone : attempt.fault = none
    · rw [HostCall.outcome_of_done hDone]
      cases hPhase : attempt.state.phase with
      | ended => exact ⟨hPhase, hProgram⟩
      | ready => exact ⟨hPhase, hProgram⟩
    · rw [HostCall.outcome_of_fault hDone]
      exact ⟨hPhase.trans (if_neg (hFault ▸ hDone)), hProgram⟩
  | absent | finished | faulted =>
    have hAttempt : attempt = .stopped .notLoaded machine := step_of_ended h.phase_eq
    rw [hAttempt]
    exact h

theorem Tells.call {hosted : Hosted ι} (h : Tells hosted.machine hosted.fate) (call : HostCall) :
    let after := hosted.call interpreter call
    Tells after.machine after.fate := by
  cases call with
  | load program => exact h.load program
  | step => exact h.step
  | dispose => exact ⟨rfl, rfl⟩
  | rework change => exact ⟨h.phase_eq, h.program_eq⟩

theorem Tells.foldl_call {hosted : Hosted ι} (h : Tells hosted.machine hosted.fate)
    (calls : List HostCall) :
    let after := calls.foldl (Hosted.call interpreter) hosted
    Tells after.machine after.fate := by
  induction calls generalizing hosted with
  | nil => exact h
  | cons call rest ih => exact ih (h.call call)

theorem tells_create {geometry : Geometry} {interp : ι}
    (hCreate : create geometry interp = .ok machine) : Tells machine .absent := by
  rw [create] at hCreate
  split at hCreate
  · cases hCreate
  · cases hCreate
    exact ⟨rfl, rfl⟩

end Machine

namespace Hosted
variable {ι : Type} {interpreter : Interpreter ι} {hosted : Hosted ι} {later : List HostCall}

theorem fate_call_of_ended (hEnded : hosted.fate.phase = .ended) {call : HostCall}
    (hLoad : ∀ program, call = .load program → (call.run interpreter hosted.machine).fault ≠ none)
    (hKeep : call ≠ .dispose) : (hosted.call interpreter call).fate = hosted.fate := by
  obtain ⟨machine, fate⟩ := hosted
  cases call with
  | load program =>
    have hFailed := HostCall.outcome_of_fault (hLoad program rfl)
    rw [Hosted.call, Fate.next, hFailed]
    cases fate with
    | running name => cases hEnded
    | absent | finished | faulted => rfl
  | step =>
    cases fate with
    | running name => cases hEnded
    | absent | finished | faulted => rfl
  | dispose => exact absurd rfl hKeep
  | rework change => rfl

theorem fate_of_loadsFail (hEnded : hosted.fate.phase = .ended)
    (hLater : LoadsFail interpreter hosted later) :
    let now := later.foldl (Hosted.call interpreter) hosted
    (.dispose ∈ later → now.fate = .absent) ∧ (.dispose ∉ later → now.fate = hosted.fate) := by
  induction later generalizing hosted with
  | nil => exact ⟨fun hMember => (List.not_mem_nil hMember).elim, fun _ => rfl⟩
  | cons call rest ih =>
    obtain ⟨hLoad, hRest⟩ := hLater
    by_cases hDispose : call = .dispose
    · subst hDispose
      obtain ⟨hGone, hStill⟩ := ih rfl hRest
      refine ⟨fun _ => ?_, fun hNone => absurd List.mem_cons_self hNone⟩
      by_cases hMember : .dispose ∈ rest
      · exact hGone hMember
      · exact hStill hMember
    · have hFate := fate_call_of_ended hEnded hLoad hDispose
      obtain ⟨hGone, hStill⟩ := ih (hFate ▸ hEnded) hRest
      have hMember : .dispose ∈ call :: rest ↔ .dispose ∈ rest := by
        simp [Ne.symm hDispose]
      rw [hMember]
      exact ⟨hGone, fun hNone => (hStill hNone).trans hFate⟩

theorem fate_of_refused {program : Program}
    (hFault : ((HostCall.load program).run interpreter hosted.machine).fault ≠ none)
    (hLater : LoadsFail interpreter (hosted.call interpreter (.load program)) later) :
    let now := later.foldl (Hosted.call interpreter) (hosted.call interpreter (.load program))
    (.dispose ∈ later → now.fate = .absent) ∧
      (.dispose ∉ later → now.fate = hosted.fate.dropped) := by
  have hRefused : (hosted.call interpreter (.load program)).fate = hosted.fate.dropped := by
    rw [Hosted.call, Fate.next, HostCall.outcome_of_fault hFault]
    rfl
  have hEnded := hosted.fate.phase_dropped
  rw [← hRefused] at hEnded ⊢
  exact fate_of_loadsFail hEnded hLater

end Hosted

namespace Machine
variable {ι : Type}

/-- Whatever was called before, after a load that fails there is no program to step until a load
succeeds: a step is refused, whatever the interpreter, and changes nothing. The machine names no
program if there was none or if the one before could still step. The name of one that had ended by
itself or with a fault stays until it is let go. -/
theorem refusal_of_load {interpreter : Interpreter ι} {geometry : Geometry} {interp : ι}
    {machine : Machine ι} (hCreate : create geometry interp = .ok machine) (calls : List HostCall) :
    let past := calls.foldl (Hosted.call interpreter) (.start machine)
    ∀ program, ((HostCall.load program).run interpreter past.machine).fault ≠ none →
    let refused := past.call interpreter (.load program)
    ∀ later, Hosted.LoadsFail interpreter refused later →
    let now := later.foldl (Hosted.call interpreter) refused
    now.machine.isEnd = true ∧
    (∀ other : Interpreter ι, now.machine.step other = .stopped .notLoaded now.machine) ∧
    (.dispose ∈ later ∨ past.fate = .absent ∨ (∃ name, past.fate = .running name) →
      now.machine.program = none) ∧
    ∀ name, .dispose ∉ later → past.fate = .finished name ∨ past.fate = .faulted name →
      now.machine.program = some name := by
  intro past program hFault refused later hLater now
  have hNew : Tells (Hosted.start machine).machine (Hosted.start machine).fate :=
    tells_create hCreate
  have hPast : Tells past.machine past.fate := hNew.foldl_call calls
  have hNow : Tells now.machine now.fate := (hPast.call (.load program)).foldl_call later
  obtain ⟨hGone, hStill⟩ := Hosted.fate_of_refused hFault hLater
  have hPhase : now.machine.phase = .ended := by
    rw [hNow.phase_eq]
    by_cases hDispose : .dispose ∈ later
    · rw [hGone hDispose]
      rfl
    · rw [hStill hDispose]
      exact past.fate.phase_dropped
  refine ⟨?_, fun other => step_of_ended hPhase, fun hDropped => ?_, fun name hKept hBefore => ?_⟩
  · rw [isEnd, hPhase]
    rfl
  · have hAbsent : now.fate = .absent := by
      by_cases hDispose : .dispose ∈ later
      · exact hGone hDispose
      · rw [hStill hDispose, Fate.dropped_eq_absent_iff]
        exact hDropped.resolve_left hDispose
    rw [hNow.program_eq, hAbsent]
    rfl
  · rw [hNow.program_eq, hStill hKept]
    exact Fate.name?_dropped_of_ended hBefore

/-- An interpreter that refuses its third call, which is a load. The program before has printed its
last character, and its name stays; one with a character left loses it. -/
theorem refusal_of_thirdCall :
    let interpreter := Player.interpreter.counted [2] "gate"
    let calls (text : Array UInt8) : List HostCall := [.load ⟨"old", text⟩, .step]
    ∃ machine, create ⟨⟨16, 32⟩, 64, 16⟩ (Counted.start Player.idle) = .ok machine ∧
    let past (text : Array UInt8) := (calls text).foldl (Hosted.call interpreter) (.start machine)
    let refused (text : Array UInt8) := (past text).call interpreter (.load ⟨"new", #[0x62]⟩)
    (past #[0x61]).fate = .finished "old" ∧ (refused #[0x61]).machine.isEnd = true ∧
    (refused #[0x61]).machine.program = some "old" ∧
    ((refused #[0x61]).call interpreter .dispose).machine.program = none ∧
    (past #[0x61, 0x61]).fate = .running "old" ∧
    (refused #[0x61, 0x61]).machine.program = none := by
  intro interpreter calls
  have hRun : ∃ machine, create ⟨⟨16, 32⟩, 64, 16⟩ (Counted.start Player.idle) = .ok machine ∧
      let past (text : Array UInt8) := (calls text).foldl (Hosted.call interpreter) (.start machine)
      ∀ text ∈ [#[0x61], #[0x61, 0x61]],
        (past text).fate = (if text.size = 1 then .finished "old" else .running "old") ∧
        ((HostCall.load ⟨"new", #[0x62]⟩).run interpreter (past text).machine).fault ≠ none := by
    refine ⟨_, rfl, ?_⟩
    decide +kernel
  obtain ⟨machine, hCreate, hPast⟩ := hRun
  obtain ⟨hFinished, hFault⟩ := hPast #[0x61] (by decide)
  obtain ⟨hRunning, hAlso⟩ := hPast #[0x61, 0x61] (by decide)
  have hLoads (hosted : Hosted (Counted Player)) : hosted.LoadsFail interpreter [.dispose] :=
    ⟨(fun _ hOther => nomatch hOther), trivial⟩
  obtain ⟨hEnd, -, -, hName⟩ := refusal_of_load hCreate (calls #[0x61]) _ hFault [] trivial
  obtain ⟨-, -, hGone, -⟩ := refusal_of_load hCreate (calls #[0x61]) _ hFault [.dispose] (hLoads _)
  obtain ⟨-, -, hDropped, -⟩ := refusal_of_load hCreate (calls #[0x61, 0x61]) _ hAlso [] trivial
  refine ⟨machine, hCreate, hFinished, hEnd, ?_, ?_, hRunning, ?_⟩
  · exact hName "old" List.not_mem_nil (.inl hFinished)
  · exact hGone (.inl List.mem_cons_self)
  · exact hDropped (.inr (.inr ⟨"old", hRunning⟩))

end Machine
end Handheld
