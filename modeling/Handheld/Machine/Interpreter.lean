import Handheld.Machine.Error
import Handheld.Machine.Workspace
import Handheld.Program

/-! # Interpreters

An interpreter gives programs their meaning. It keeps a state of its own and works on the memory
and the console of the machine.
-/
set_option autoImplicit false
namespace Handheld

structure Interpreter (ι : Type) where
  /-- Takes a program over; all memory is zero at that time. -/
  load : Program → ι × Workspace → Attempt MachineError (ι × Workspace)
  step : ι × Workspace → Attempt MachineError (ι × Workspace)
  finished : ι → Bool
  dispose : ι → ι

end Handheld
