import Handheld.Proofs.Runner.Traced

/-! # What a run leaves on record

The order of the actions is the order of time, so that what happened in a run is read off its
actions: the commands that were accepted, those that the worker began to apply, and the events.
-/
set_option autoImplicit false
namespace Handheld

def Request.command? : Request → Option Command
  | .launch program => some (.load program)
  | .resize size => some (.resize size)
  | .pause | .resume => none

def Event.tellsState : Event → Bool
  | .running | .paused => true
  | .loaded | .fault | .exited => false

namespace Control

def admitted (request : Request) (control : Control) : Option Command :=
  if control.state = .exited then none else request.command?

theorem commands_enter (state : RunState) (control : Control) :
    (control.enter state).commands = control.commands := by
  rw [enter]
  split
  · rfl
  · rfl

theorem commands_startLoaded (control : Control) :
    control.startLoaded.commands = control.commands := by
  rw [startLoaded]
  split
  · exact commands_enter .running control
  · rfl

theorem commands_accept (request : Request) (control : Control) :
    (control.accept request).1.commands =
      control.commands ++ (control.admitted request).toList := by
  rw [admitted]
  cases request with
  | launch program =>
    rw [accept]
    split
    · exact (List.append_nil _).symm
    · exact congrArg (· ++ [Command.load program]) (commands_enter .paused control)
  | pause =>
    refine (commands_enter .paused _).trans ?_
    rw [Request.command?, ite_self]
    exact (List.append_nil _).symm
  | resume =>
    refine (commands_enter .running _).trans ?_
    rw [Request.command?, ite_self]
    exact (List.append_nil _).symm
  | resize size =>
    rw [accept]
    split
    · exact (List.append_nil _).symm
    · rfl

theorem told_of_admitted {request : Request} {command : Command} {control : Control}
    (h : control.admitted request = some command) : (control.accept request).2 = true := by
  rw [admitted] at h
  split at h
  · cases h
  · rename_i hOpen
    cases request with
    | launch program =>
      rw [accept, if_neg hOpen]
    | pause | resume => cases h
    | resize size =>
      rw [accept, if_neg hOpen]

def entered (state : RunState) (control : Control) : List Event :=
  if control.enters state then [eventOf state] else []

def answered (request : Request) (control : Control) : List Event :=
  match request with
  | .launch _ | .pause => control.entered .paused
  | .resume => control.entered .running
  | .resize _ => []

def afterEvents (events : List Event) (ring : Ring Event) : Ring Event := events.foldl Ring.push ring

theorem events_enter (state : RunState) (control : Control) :
    (control.enter state).events = afterEvents (control.entered state) control.events := by
  rw [enter, entered]
  split
  · rfl
  · rfl

theorem events_accept (request : Request) (control : Control) :
    (control.accept request).1.events = afterEvents (control.answered request) control.events := by
  cases request with
  | launch program =>
    rw [accept]
    split
    · rename_i hExited
      rw [answered, entered, enters, hExited]
      rfl
    · exact events_enter .paused control
  | pause => exact events_enter .paused { control with resumeAfterLoad := false }
  | resume => exact events_enter .running { control with resumeAfterLoad := true }
  | resize size =>
    rw [accept]
    split
    · rfl
    · rfl

end Control

def Stage.begins : Stage → List Command
  | .applying (command :: _) => [command]
  | _ => []

namespace Runner
variable {ι σ : Type} {rig : Rig ι σ} {runner next : Runner ι σ}

/-- What some actions note down, each of them in the runner that it finds. -/
def along {α : Type} (rig : Rig ι σ) (note : Control → Stage → Action → List α) :
    List Action → Runner ι σ → List α
  | [], _ => []
  | action :: rest, runner =>
    note runner.control runner.stage action ++
      match runner.act rig action with
      | none => []
      | some next => along rig note rest next

section Along
variable {α : Type} (note : Control → Stage → Action → List α)

theorem along_append {actions : List Action} (later : List Action)
    (hRun : actAll rig actions runner = some next) :
    along rig note (actions ++ later) runner =
      along rig note actions runner ++ along rig note later next := by
  induction actions generalizing runner with
  | nil =>
    cases hRun
    rfl
  | cons action rest ih =>
    rw [actAll, Option.bind_eq_some_iff] at hRun
    obtain ⟨middle, hAct, hRest⟩ := hRun
    rw [List.cons_append, along, along, hAct, List.append_assoc]
    exact congrArg _ (ih hRest)

theorem along_singleton (action : Action) (runner : Runner ι σ) :
    along rig note [action] runner = note runner.control runner.stage action := by
  rw [along]
  cases runner.act rig action with
  | none => exact List.append_nil _
  | some next => exact List.append_nil _

theorem along_concat {actions : List Action} (action : Action)
    (hRun : actAll rig actions runner = some next) :
    along rig note (actions ++ [action]) runner =
      along rig note actions runner ++ note next.control next.stage action := by
  rw [along_append note [action] hRun, along_singleton]

theorem along_traced (rig : Rig ι σ) (actions : List Action) (runner : Runner (Traced ι) σ) :
    along rig.traced note actions runner = along rig note actions runner.untraced := by
  induction actions generalizing runner with
  | nil => rfl
  | cons action rest ih =>
    rw [along, along, ← untraced_act]
    cases runner.act rig.traced action with
    | none => rfl
    | some middle => exact congrArg _ (ih middle)

end Along

def accepted (rig : Rig ι σ) : List Action → Runner ι σ → List Command :=
  along rig fun control _ action =>
    match action with
    | .request request => (control.admitted request).toList
    | _ => []

def begun (rig : Rig ι σ) : List Action → Runner ι σ → List Command :=
  along rig fun _ stage action =>
    match action with
    | .work => stage.begins
    | _ => []

def announced (control : Control) : Stage → List Event
  | .reporting _ => [.loaded]
  | .starting _ => if control.resumeAfterLoad then control.entered .running else []
  | .rejecting _ | .faulting => [.fault]
  | .finishing => [.exited]
  | _ => []

/-- All events, those included that the ring has given up or the host has taken out. -/
def recorded (rig : Rig ι σ) : List Action → Runner ι σ → List Event :=
  along rig fun control stage action =>
    match action, stage with
    | .request request, _ => control.answered request
    | .work, stage => announced control stage
    | .collect, .gone true => [.fault]
    | _, _ => []

theorem Turn.events (turn : Turn rig runner next) :
    next.control.events =
      Control.afterEvents (announced runner.control runner.stage) runner.control.events := by
  cases turn with
  | leave hStage | take hStage | choose hStage | wait hStage | begin hStage | quit hStage
  | idle hStage | look hStage | rest hStage | stepped hStage | stumbled hStage | applied hStage
  | prepare hStage | resized hStage | misfit hStage | loaded hStage | refused hStage
  | report hStage | reject hStage | fault hStage | dispose hStage | finish hStage =>
    rw [hStage]
    rfl
  | start hStage =>
    rw [hStage, announced, Control.startLoaded]
    split
    · exact Control.events_enter .running runner.control
    · rfl

theorem Move.events {action : Action} (move : Move rig runner action next)
    (hKeeps : action ≠ .drain) :
    next.control.events =
      Control.afterEvents (recorded rig [action] runner) runner.control.events := by
  rw [recorded, along_singleton]
  cases move with
  | request request => exact Control.events_accept request runner.control
  | work turn => exact turn.events
  | drain => exact absurd rfl hKeeps
  | collect hStage | mourn hStage =>
    rw [hStage]
    rfl
  | cancel | signal | wake | crash => rfl

theorem events_of_run {actions : List Action} (hKeeps : .drain ∉ actions)
    (hRun : actAll rig actions runner = some next) :
    next.control.events =
      Control.afterEvents (recorded rig actions runner) runner.control.events := by
  revert hKeeps
  refine actAll_induction_along (motive := fun soFar middle => .drain ∉ soFar →
    middle.control.events =
      Control.afterEvents (recorded rig soFar runner) runner.control.events) ?_ ?_ hRun
  · exact fun _ => rfl
  · intro soFar middle action after hSoFar ih move hKeeps
    rw [List.mem_append, not_or] at hKeeps
    have hLast : action ≠ .drain := fun hDrain => hKeeps.2 (by rw [hDrain]; exact .head _)
    rw [move.events hLast, ih hKeeps.1, recorded, along_append _ _ hSoFar]
    exact List.foldl_append.symm

theorem not_mem_answered {event : Event} (hSilent : event.tellsState = false) (request : Request)
    (control : Control) : event ∉ control.answered request := by
  have hEntered (state : RunState) (hState : Control.eventOf state ≠ event) :
      event ∉ control.entered state := by
    rw [Control.entered]
    split
    · exact fun hMember => hState (List.mem_singleton.mp hMember).symm
    · exact List.not_mem_nil
  cases request with
  | launch | pause =>
    refine hEntered .paused ?_
    rintro rfl
    cases hSilent
  | resume =>
    refine hEntered .running ?_
    rintro rfl
    cases hSilent
  | resize => exact List.not_mem_nil

inductive Announces (runner : Runner ι σ) : Action → Prop
  | faulting (hStage : runner.stage = .faulting) : Announces runner .work
  | rejecting {rest : List Command} (hStage : runner.stage = .rejecting rest) :
      Announces runner .work
  | lost (hStage : runner.stage = .gone true) : Announces runner .collect

theorem announces_of_recorded {action : Action} (h : .fault ∈ recorded rig [action] runner) :
    Announces runner action := by
  rw [recorded, along_singleton] at h
  cases action with
  | request request => exact absurd h (not_mem_answered rfl request runner.control)
  | work =>
    cases hStage : runner.stage with
    | faulting => exact .faulting hStage
    | rejecting => exact .rejecting hStage
    | starting =>
      rw [hStage] at h
      change _ ∈ ite _ _ _ at h
      split at h
      · exact absurd h (not_mem_answered rfl .resume runner.control)
      · cases h
    | reporting | finishing =>
      rw [hStage] at h
      cases List.mem_singleton.mp h
    | _ =>
      rw [hStage] at h
      cases h
  | collect =>
    split at h
    · cases ‹Action.collect = .request _›
    · cases ‹Action.collect = .work›
    · rename_i hStage
      exact .lost hStage
    · cases h
  | _ => cases h

end Runner
end Handheld
