import Handheld.Machine.Interpreter

/-! # The machine

A machine holds the memory, the console and the interpreter of one program at a time. Its regions
are the runtime memory, two pictures of the screen, the text page and the string heap, in this
order.
-/
set_option autoImplicit false
namespace Handheld

inductive Phase
  | ready
  | ended
  deriving DecidableEq

structure Machine (ι : Type) where
  interp : ι
  work : Workspace
  phase : Phase
  program : Option String

structure Geometry where
  screen : PixelSize
  runtimeSize : Nat
  stringSize : Nat
  deriving DecidableEq

def Geometry.layout (geometry : Geometry) (text : PageView) :
    Except MemoryError AddressSpace := do
  let space ← AddressSpace.empty.install (.ofSize .runtime geometry.runtimeSize)
  let space ← space.install (.ofSize .graph geometry.screen.bitmapBytes)
  let space ← space.install (.ofSize .buffer geometry.screen.bitmapBytes)
  let space ← space.install (.ofPage text)
  space.install (.ofSize .string geometry.stringSize)

namespace AddressSpace

def exchange (space : AddressSpace) (region : Region) : Attempt MemoryError AddressSpace :=
  match space.replace region with
  | (space, .error e) => .stopped e space
  | (space, .ok _) => .done space

/-- Replaces the regions whose size follows from the screen, up to the first that cannot be. -/
def fitScreen (space : AddressSpace) (size : PixelSize) (text : PageView) :
    Attempt MemoryError AddressSpace :=
  (space.exchange (.ofPage text)).andThen fun space =>
    (space.exchange (.ofSize .graph size.bitmapBytes)).andThen fun space =>
      space.exchange (.ofSize .buffer size.bitmapBytes)

end AddressSpace

namespace Machine
variable {ι : Type}

def create (geometry : Geometry) (interp : ι) : Except MachineError (Machine ι) :=
  let console := Console.ofSize geometry.screen
  match geometry.layout console.pages.view with
  | .error e => .error (.memory e)
  | .ok space => .ok ⟨interp, ⟨space, console⟩, .ended, none⟩

def isEnd (machine : Machine ι) : Bool := machine.phase == .ended

/-- Lets go of the program; memory keeps its bytes until the next load. -/
def dispose (interpreter : Interpreter ι) : Machine ι → Machine ι
  | ⟨interp, work, _, _⟩ => ⟨interpreter.dispose interp, work, .ended, none⟩

def prepare (interpreter : Interpreter ι) (machine : Machine ι) : Machine ι :=
  let machine := if machine.isEnd then machine else machine.dispose interpreter
  { machine with
    work := machine.work.clearAll.onConsole fun console => console.setScreen console.size }

def phaseOf (interpreter : Interpreter ι) (interp : ι) : Phase :=
  if interpreter.finished interp then .ended else .ready

/-- Hands a program to the interpreter. A program that is refused leaves the phase and the program
name as they are. -/
def takeOver (interpreter : Interpreter ι) (program : Program) :
    Machine ι → Attempt MachineError (Machine ι)
  | ⟨interp, work, phase, old⟩ =>
    let attempt := interpreter.load program (interp, work)
    match attempt.fault with
    | some e => .stopped e ⟨attempt.state.1, attempt.state.2, phase, old⟩
    | none =>
      .done ⟨attempt.state.1, attempt.state.2, phaseOf interpreter attempt.state.1,
        some program.name⟩

def load (interpreter : Interpreter ι) (program : Program) (machine : Machine ι) :
    Attempt MachineError (Machine ι) := (machine.prepare interpreter).takeOver interpreter program

def step (interpreter : Interpreter ι) : Machine ι → Attempt MachineError (Machine ι)
  | ⟨interp, work, phase, program⟩ =>
    match phase with
    | .ended => .stopped .notLoaded ⟨interp, work, phase, program⟩
    | .ready =>
      let attempt := interpreter.step (interp, work)
      match attempt.fault with
      | some e => .stopped e ⟨attempt.state.1, attempt.state.2, .ended, program⟩
      | none =>
        .done ⟨attempt.state.1, attempt.state.2, phaseOf interpreter attempt.state.1, program⟩

/-- Fits the machine to a screen. On a new size the text page and both pictures are replaced; a
region that cannot be replaced stops the change where it is. -/
def setScreen (size : PixelSize) (machine : Machine ι) : Attempt MachineError (Machine ι) :=
  let console := machine.work.console.setScreen size
  if size = machine.work.console.size then
    .done { machine with work := ⟨machine.work.space, console⟩ }
  else
    let attempt := machine.work.space.fitScreen size console.pages.view
    (attempt.mapFault .memory).map fun space => { machine with work := ⟨space, console⟩ }

def onConsole (act : Console → Console) (machine : Machine ι) : Machine ι :=
  { machine with work := machine.work.onConsole act }

end Machine
end Handheld
