import Handheld.Machine.Interpreter

/-! # Counted interpreters

An interpreter that counts its calls, and refuses the calls of some numbers untried.
-/
set_option autoImplicit false
namespace Handheld

structure Counted (ι : Type) where
  inner : ι
  /-- The loads and steps that have begun, counted together. -/
  calls : Nat
  disposals : Nat

namespace Counted
variable {ι : Type}

def start (inner : ι) : Counted ι := ⟨inner, 0, 0⟩

def call (refused : List Nat) (note : String)
    (act : ι × Workspace → Attempt MachineError (ι × Workspace)) :
    Counted ι × Workspace → Attempt MachineError (Counted ι × Workspace)
  | (⟨inner, calls, disposals⟩, work) =>
    if calls ∈ refused then
      .stopped (.badProgram (.other note)) (⟨inner, calls + 1, disposals⟩, work)
    else (act (inner, work)).map fun (inner, work) => (⟨inner, calls + 1, disposals⟩, work)

end Counted

def Interpreter.counted {ι : Type} (interpreter : Interpreter ι) (refused : List Nat)
    (note : String) : Interpreter (Counted ι) where
  load program := Counted.call refused note (interpreter.load program)
  step := Counted.call refused note interpreter.step
  finished state := interpreter.finished state.inner
  dispose
    | ⟨inner, calls, disposals⟩ => ⟨interpreter.dispose inner, calls, disposals + 1⟩

end Handheld
