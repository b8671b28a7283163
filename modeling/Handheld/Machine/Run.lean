import Handheld.Machine.Basic

/-! # Runs of a machine

A run steps a machine until its program ends, a step fails or the steps asked for are made.
-/
set_option autoImplicit false
namespace Handheld

/-- The machine after a run, with the number of steps that were begun. -/
structure RunResult (ι : Type) where
  machine : Machine ι
  steps : Nat
  fault : Option MachineError

namespace Machine
variable {ι : Type}

def run (interpreter : Interpreter ι) : Nat → Machine ι → RunResult ι
  | 0, machine => ⟨machine, 0, none⟩
  | limit + 1, machine =>
    if machine.isEnd then ⟨machine, 0, none⟩
    else
      let attempt := machine.step interpreter
      match attempt.fault with
      | some e => ⟨attempt.state, 1, some e⟩
      | none =>
        let rest := run interpreter limit attempt.state
        { rest with steps := rest.steps + 1 }

end Machine
end Handheld
