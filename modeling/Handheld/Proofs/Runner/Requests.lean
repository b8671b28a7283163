import Handheld.Runner.Control

/-! # Requests and states

How the run state and the wish of the host change under each operation of the control block.
-/
set_option autoImplicit false
namespace Handheld
namespace Control

variable (control : Control)

theorem state_enter (state : RunState) :
    (control.enter state).state = if control.state = .exited then .exited else state := by
  obtain ⟨now, live, commands, events, resumeAfterLoad⟩ := control
  cases now with
  | paused | running | exited =>
    cases state with
    | paused | running | exited => rfl

theorem resume_enter (state : RunState) :
    (control.enter state).resumeAfterLoad = control.resumeAfterLoad := by
  rw [enter]
  split
  · rfl
  · rfl

theorem live_enter (state : RunState) : (control.enter state).live = control.live := by
  rw [enter]
  split
  · rfl
  · rfl

theorem live_startLoaded : control.startLoaded.live = control.live := by
  rw [startLoaded]
  split
  · exact control.live_enter .running
  · rfl

theorem live_accept (request : Request) : (control.accept request).1.live = control.live := by
  cases request with
  | launch program =>
    rw [accept]
    split
    · rfl
    · exact control.live_enter .paused
  | pause => exact live_enter _ .paused
  | resume => exact live_enter _ .running
  | resize size =>
    rw [accept]
    split
    · rfl
    · rfl

def asked (request : Request) (state : RunState) : RunState :=
  match request with
  | .launch _ | .pause => .paused
  | .resume => .running
  | .resize _ => state

theorem state_accept (request : Request) :
    (control.accept request).1.state =
      if control.state = .exited then .exited else asked request control.state := by
  cases request with
  | launch program =>
    rw [accept]
    split
    · assumption
    · rename_i hOpen
      exact (control.state_enter .paused).trans (if_neg hOpen)
  | pause => exact state_enter _ .paused
  | resume => exact state_enter _ .running
  | resize size =>
    rw [accept]
    split
    · assumption
    · rfl

variable {control}

theorem enter_of_exited (h : control.state = .exited) (state : RunState) :
    control.enter state = control := by
  rw [enter, enters, h]
  rfl

theorem accept_of_exited (h : control.state = .exited) (request : Request) :
    ∃ resumeAfterLoad, control.accept request = ({ control with resumeAfterLoad }, false) := by
  have hShut (state : RunState) : control.enters state = false := by rw [enters, h]; rfl
  cases request with
  | launch program => exact ⟨_, if_pos h⟩
  | pause =>
    have hStay : { control with resumeAfterLoad := false }.state = .exited := h
    exact ⟨false, by rw [accept, hShut, enter_of_exited hStay]⟩
  | resume =>
    have hStay : { control with resumeAfterLoad := true }.state = .exited := h
    exact ⟨true, by rw [accept, hShut, enter_of_exited hStay]⟩
  | resize size => exact ⟨_, if_pos h⟩

theorem state_startLoaded (hOpen : control.state ≠ .exited) :
    control.startLoaded.state =
      if control.resumeAfterLoad = true then .running else control.state := by
  rw [startLoaded]
  split
  · exact (control.state_enter .running).trans (if_neg hOpen)
  · rfl

end Control
end Handheld
