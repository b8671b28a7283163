import Handheld.Runner.Worker

/-! # Runs in turns

A schedule lets the worker go on after each request until it is blocked or held, so that what a
host then sees does not depend on time. A gate holds chosen calls of the interpreter until they
are released, and makes chosen calls never come back.
-/
set_option autoImplicit false
namespace Handheld

/-- Calls are numbered from zero, loads and steps together. The call at some place of the holds
needs one release more than there are calls before it in the list. -/
structure Gate where
  holds : List Nat
  crashes : List Nat

def Gate.free : Gate := ⟨[], []⟩

structure Schedule (ι σ : Type) where
  rig : Rig ι σ
  gate : Gate
  runner : Runner ι σ
  begun : Nat
  released : Nat
  /-- More turns than the worker can need before it is blocked. -/
  allowance : Nat

namespace Schedule
variable {ι σ : Type}

def held (schedule : Schedule ι σ) : Bool :=
  let place := schedule.gate.holds.idxOf (schedule.begun - 1)
  decide (place < schedule.gate.holds.length ∧ schedule.released ≤ place)

def turn? (schedule : Schedule ι σ) : Option (Schedule ι σ) :=
  let inCall := schedule.runner.stage.inCall
  if inCall && schedule.held then none
  else if inCall && schedule.gate.crashes.contains (schedule.begun - 1) then
    (schedule.runner.act schedule.rig .crash).map fun runner => { schedule with runner }
  else
    (schedule.runner.act schedule.rig .work).map fun runner =>
      { schedule with
        runner := runner
        begun := if runner.stage.inCall then schedule.begun + 1 else schedule.begun }

def turns : Nat → Schedule ι σ → Schedule ι σ
  | 0, schedule => schedule
  | fuel + 1, schedule =>
    match schedule.turn? with
    | none => schedule
    | some next => turns fuel next

def settle (schedule : Schedule ι σ) : Schedule ι σ :=
  let stage := match schedule.runner.stage with
    | .waiting => if schedule.runner.owed = 0 then .waiting else .fetching
    | stage => stage.notified
  turns schedule.allowance { schedule with runner := { schedule.runner with stage, owed := 0 } }

def begin (rig : Rig ι σ) (gate : Gate) (runner : Runner ι σ) : Schedule ι σ :=
  settle ⟨rig, gate, runner, 0, 0, 16⟩

/-- The turns a request may cost: a few for itself, and three for each step of a program, which
has no more steps than bytes. -/
def cost : Request → Nat
  | .launch program => 16 + 4 * program.bytes.size
  | _ => 16

def request (request : Request) (schedule : Schedule ι σ) : Schedule ι σ :=
  match schedule.runner.act schedule.rig (.request request) with
  | none => schedule
  | some runner =>
    settle { schedule with runner, allowance := schedule.allowance + cost request }

def release (schedule : Schedule ι σ) : Schedule ι σ :=
  settle { schedule with released := schedule.released + 1 }

def readEvents (schedule : Schedule ι σ) : List Event × Schedule ι σ :=
  (schedule.runner.control.events.drain.1,
    match schedule.runner.act schedule.rig .drain with
    | none => schedule
    | some runner => { schedule with runner })

/-- Tells the worker to leave and takes machine and screen back, unless they were taken back
before or were lost with the worker. -/
def shutdown (schedule : Schedule ι σ) : Option (Machine ι × σ) × Schedule ι σ :=
  if schedule.runner.collected then (none, schedule)
  else
    match schedule.runner.act schedule.rig .cancel with
    | none => (none, schedule)
    | some runner =>
      let settled := settle { schedule with runner, allowance := schedule.allowance + 16 }
      match settled.runner.act settled.rig .collect with
      | none => (none, settled)
      | some runner =>
        (match settled.runner.stage with
          | .gone false => some (runner.machine, runner.screen)
          | _ => none,
          { settled with runner })

end Schedule
end Handheld
