import Handheld.Proofs.Machine.Exchange
import Handheld.Proofs.Player.Calls

/-! # What the player changes in memory

Of the memory of a machine the player changes bytes, and the frame window when it takes a program
over. All else about the regions is left to those who change the screen.
-/
set_option autoImplicit false
namespace Handheld
open AddressSpace

namespace Player

def openFrame (window : Window) : Window := { window with stop := window.start + frameSize }

theorem sameForm_record (player : Player) (work : Workspace) :
    SameForm work.space (player.record work).state.space := by
  rw [record]
  split
  · exact .refl work.space
  · exact Attempt.andThen_state (P := fun store : Store => SameForm work.space store.space)
      (sameForm_writeFrom work.store _ 0 _) fun store hStore =>
        hStore.trans (sameForm_writeFrom store _ 0 _)

theorem sameForm_load (program : Program) (player : Player) (work : Workspace) :
    SameForm (work.space.modifyWindow openFrame)
      (Player.load program (player, work)).state.2.space :=
  sameForm_record _ ⟨work.space.modifyWindow openFrame, work.console⟩

theorem sameForm_step (player : Player) (work : Workspace) :
    SameForm work.space (Player.step (player, work)).state.2.space := by
  rw [step]
  split
  · exact .refl work.space
  · split
    · exact .refl work.space
    · rename_i instruction next _
      exact sameForm_record (player.advance instruction next) (work.onConsole (perform instruction))

end Player

namespace Machine
variable (machine : Machine Player)

theorem sameForm_prepare :
    SameForm machine.work.space (machine.prepare Player.interpreter).work.space := by
  rw [work_prepare]
  exact sameForm_clearAll machine.work.store

theorem sameForm_takeOver (program : Program) :
    SameForm (machine.work.space.modifyWindow Player.openFrame)
      (machine.takeOver Player.interpreter program).state.work.space := by
  have hLoad := Player.sameForm_load program machine.interp machine.work
  rw [takeOver]
  split
  · exact hLoad
  · exact hLoad

theorem sameForm_step :
    SameForm machine.work.space (machine.step Player.interpreter).state.work.space := by
  obtain ⟨player, work, phase, program⟩ := machine
  cases phase with
  | ended => exact .refl work.space
  | ready =>
    have hStep := Player.sameForm_step player work
    rw [step]
    split
    · exact hStep
    · exact hStep

end Machine

namespace Machine
variable {machine : Machine Player}

theorem laidOut_run (h : LaidOut machine.work.space) {call : Call} (hCall : call.InRange) :
    LaidOut (call.run machine).state.work.space := by
  cases call with
  | load program =>
    have hPrepared := h.of_sameForm (sameForm_prepare machine)
    exact (hPrepared.modifyWindow _).of_sameForm (sameForm_takeOver _ program)
  | step => exact h.of_sameForm (sameForm_step machine)
  | dispose => exact h
  | setScreen size => exact laidOut_setScreen h hCall

theorem laidOut_after (h : LaidOut machine.work.space) {calls : List Call}
    (hCalls : ∀ call ∈ calls, call.InRange) : LaidOut (machine.after calls).work.space := by
  induction calls generalizing machine with
  | nil => exact h
  | cons call rest ih =>
    rw [List.forall_mem_cons] at hCalls
    exact ih (laidOut_run h hCalls.1) hCalls.2

theorem laidOut_create {geometry : Geometry} (hRange : geometry.InRange)
    (hCreate : create geometry Player.idle = .ok machine) : LaidOut machine.work.space :=
  (assembled_create hRange hCreate).laidOut_store

end Machine
end Handheld
