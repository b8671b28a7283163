import Handheld.Display.Drawing
import Handheld.Program
import Handheld.Ring

/-! # The control block

The control block is what the host and the worker share: the run state, the commands the worker
has not taken yet, and the newest events. Each operation here happens as a whole, under one lock.
-/
set_option autoImplicit false
namespace Handheld

inductive RunState
  | paused
  | running
  | exited
  deriving DecidableEq

inductive Event
  | running
  | paused
  | loaded
  | fault
  | exited
  deriving DecidableEq, Inhabited

/-- What the worker has to do for the host between two steps. -/
inductive Command
  | load (program : Program)
  | resize (size : PixelSize)
  deriving DecidableEq

inductive Request
  | launch (program : Program)
  | pause
  | resume
  | resize (size : PixelSize)

structure Control where
  state : RunState
  live : Bool
  commands : List Command
  events : Ring Event
  /-- Whether the last request about running was in favour of it. -/
  resumeAfterLoad : Bool

namespace Control

def create (eventSlots : Nat) : Control := ⟨.paused, true, [], .ofSize eventSlots, false⟩

def record (event : Event) (control : Control) : Control :=
  { control with events := control.events.push event }

/-- A state is entered from another one, and none from the exited one. -/
def enters (control : Control) (state : RunState) : Bool :=
  control.state != .exited && control.state != state

def eventOf : RunState → Event
  | .paused => .paused
  | .running => .running
  | .exited => .exited

def enter (state : RunState) (control : Control) : Control :=
  if control.enters state then { control.record (eventOf state) with state } else control

def enqueue (command : Command) (control : Control) : Control :=
  { control with commands := control.commands ++ [command] }

/-- The control block after a request, and whether the worker is told of it. Nothing is queued
for a worker that has exited. -/
def accept (request : Request) (control : Control) : Control × Bool :=
  match request with
  | .launch program =>
    if control.state = .exited then (control, false)
    else
      ({ (control.enter .paused).enqueue (.load program) with resumeAfterLoad := true }, true)
  | .pause =>
    ({ control with resumeAfterLoad := false }.enter .paused, control.enters .paused)
  | .resume =>
    ({ control with resumeAfterLoad := true }.enter .running, control.enters .running)
  | .resize size =>
    if control.state = .exited then (control, false) else (control.enqueue (.resize size), true)

def cancel (control : Control) : Control := { control with live := false }

def takeCommands (control : Control) : List Command × Control :=
  (control.commands, { control with commands := [] })

/-- Runs the program that was just loaded, unless the host has asked for a pause since. -/
def startLoaded (control : Control) : Control :=
  if control.resumeAfterLoad then control.enter .running else control

def close (control : Control) : Control :=
  { control with live := false, state := .exited, commands := [] }.record .exited

/-- What the host notes down for a worker that did not come back. -/
def abandon (control : Control) : Control := { control with state := .exited }.record .fault

end Control
end Handheld
