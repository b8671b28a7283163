import Handheld.Console.Refresh
import Handheld.Machine.Basic
import Handheld.Runner.Control

/-! # Host and worker

A runner is a machine, its screen and a worker that steps it, together with the control block.
Host and worker take turns in any order; each action is one critical section or one stretch of
work outside the lock. A request and the notification that follows it are separate actions.
-/
set_option autoImplicit false
namespace Handheld

/-- What the worker does next. It sleeps while waiting and, for a time at most, while resting; the
interpreter is at work while stepping and loading. -/
inductive Stage
  | fetching
  | waiting
  | chosen
  | idling
  | resting
  | stepping
  | applying (batch : List Command)
  | loading (program : Program) (rest : List Command)
  | reporting (rest : List Command)
  | starting (rest : List Command)
  | rejecting (rest : List Command)
  | faulting
  | closing
  | finishing
  | gone (crashed : Bool)
  deriving DecidableEq

namespace Stage

def inCall : Stage → Bool
  | stepping | loading _ _ => true
  | _ => false

def notified : Stage → Stage
  | waiting | resting => fetching
  | other => other

end Stage

/-- What is fixed for the whole life of a runner. -/
structure Rig (ι σ : Type) where
  interpreter : Interpreter ι
  surface : Surface σ
  exitOnFinish : Bool

structure Runner (ι σ : Type) where
  control : Control
  stage : Stage
  machine : Machine ι
  screen : σ
  steps : Nat
  /-- Notifications on their way. -/
  owed : Nat
  /-- The host has taken machine and screen back, or knows that they are lost. -/
  collected : Bool

namespace Runner
variable {ι σ : Type}

def create (machine : Machine ι) (screen : σ) (eventSlots : Nat) : Runner ι σ :=
  ⟨.create eventSlots, .fetching, machine, screen, 0, 0, false⟩

/-- Draws what is pending and goes on to a stage, or to the fault of the drawing. -/
def redrawThen (rig : Rig ι σ) (next : Stage) (runner : Runner ι σ) : Runner ι σ :=
  let attempt := runner.machine.work.console.redraw rig.surface runner.screen
  { runner with
    machine := runner.machine.onConsole fun _ => attempt.state.1
    screen := attempt.state.2
    stage := if attempt.fault.isSome then .faulting else next }

/-- Takes what there is to do: leaving first, then commands, then a step. -/
def fetch (runner : Runner ι σ) : Runner ι σ :=
  if !runner.control.live then { runner with stage := .closing }
  else if runner.control.commands.isEmpty then
    match runner.control.state with
    | .running => { runner with stage := .chosen }
    | .exited => { runner with stage := .closing }
    | .paused => { runner with stage := .waiting }
  else
    let (batch, control) := runner.control.takeCommands
    { runner with control := control, stage := .applying batch }

def choose (rig : Rig ι σ) (runner : Runner ι σ) : Runner ι σ :=
  { runner with
    stage :=
      if !runner.machine.isEnd then .stepping
      else if rig.exitOnFinish then .closing
      else .idling }

def idle (runner : Runner ι σ) : Runner ι σ :=
  { runner with
    stage :=
      if !runner.control.live || !runner.control.commands.isEmpty then .fetching else .resting }

def finishStep (rig : Rig ι σ) (runner : Runner ι σ) : Runner ι σ :=
  let attempt := runner.machine.step rig.interpreter
  let stepped := { runner with machine := attempt.state }
  match attempt.fault with
  | some _ => { stepped with stage := .faulting }
  | none => { stepped with steps := runner.steps + 1 }.redrawThen rig .fetching

def finishLoad (rig : Rig ι σ) (program : Program) (rest : List Command)
    (runner : Runner ι σ) : Runner ι σ :=
  let attempt := runner.machine.takeOver rig.interpreter program
  let loaded := { runner with machine := attempt.state }
  match attempt.fault with
  | some _ => { loaded with stage := .rejecting rest }
  | none =>
    { loaded with
      machine := loaded.machine.onConsole fun console =>
        console.requestRefresh RefreshMask.everything }.redrawThen rig (.reporting rest)

def resize (rig : Rig ι σ) (size : PixelSize) (rest : List Command) (runner : Runner ι σ) :
    Runner ι σ :=
  let attempt := runner.machine.setScreen size
  let resized :=
    { runner with machine := attempt.state, screen := rig.surface.resize size runner.screen }
  match attempt.fault with
  | some _ => { resized with stage := .faulting }
  | none =>
    { resized with
      machine := resized.machine.onConsole fun console =>
        console.requestRefresh RefreshMask.everything }.redrawThen rig (.applying rest)

def apply (rig : Rig ι σ) (batch : List Command) (runner : Runner ι σ) : Runner ι σ :=
  match batch with
  | [] => { runner with stage := .fetching }
  | .load program :: rest =>
    { runner with
      machine := runner.machine.prepare rig.interpreter
      stage := .loading program rest }
  | .resize size :: rest => runner.resize rig size rest

def work (rig : Rig ι σ) (runner : Runner ι σ) : Option (Runner ι σ) :=
  match runner.stage with
  | .fetching => some runner.fetch
  | .chosen => some (runner.choose rig)
  | .idling => some runner.idle
  | .stepping => some (runner.finishStep rig)
  | .applying batch => some (runner.apply rig batch)
  | .loading program rest => some (runner.finishLoad rig program rest)
  | .reporting rest =>
    some { runner with control := runner.control.record .loaded, stage := .starting rest }
  | .starting rest =>
    some { runner with control := runner.control.startLoaded, stage := .applying rest }
  | .rejecting rest =>
    some { runner with control := runner.control.record .fault, stage := .applying rest }
  | .faulting => some { runner with control := runner.control.record .fault, stage := .closing }
  | .closing =>
    some { runner with machine := runner.machine.dispose rig.interpreter, stage := .finishing }
  | .finishing => some { runner with control := runner.control.close, stage := .gone false }
  | .waiting | .resting | .gone _ => none

inductive Action
  | request (request : Request)
  | cancel
  | signal
  /-- The worker wakes without a notification. -/
  | wake
  | work
  /-- The interpreter does not come back from a call, and the worker is lost. -/
  | crash
  | drain
  | collect

/-- What an action makes of a runner, if it can happen at all. -/
def act (rig : Rig ι σ) (action : Action) (runner : Runner ι σ) : Option (Runner ι σ) :=
  match action with
  | .request request =>
    let (control, told) := runner.control.accept request
    some { runner with control := control, owed := runner.owed + told.toNat }
  | .cancel => some { runner with control := runner.control.cancel, owed := runner.owed + 1 }
  | .signal =>
    if runner.owed = 0 then none
    else some { runner with owed := runner.owed - 1, stage := runner.stage.notified }
  | .wake => some { runner with stage := runner.stage.notified }
  | .work => runner.work rig
  | .crash => if runner.stage.inCall then some { runner with stage := .gone true } else none
  | .drain =>
    some { runner with
      control := { runner.control with events := runner.control.events.drain.2 } }
  | .collect =>
    if runner.collected then none
    else
      match runner.stage with
      | .gone false => some { runner with collected := true }
      | .gone true =>
        some { runner with control := runner.control.abandon, collected := true }
      | _ => none

def actAll (rig : Rig ι σ) : List Action → Runner ι σ → Option (Runner ι σ)
  | [], runner => some runner
  | action :: rest, runner => (runner.act rig action).bind (actAll rig rest)

end Runner
end Handheld
