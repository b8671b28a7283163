import Handheld.Proofs.Runner.Course

/-! # The worker and a direct run

A worker that is given one program, and is paused and resumed on the way, does to memory and console
what loading and stepping the machine directly does.
-/
set_option autoImplicit false
namespace Handheld
namespace Runner
open Machine

variable {geometry : Geometry} {machine : Machine Player} {program : Program} {name : String}
  {runner next : Runner Player Lcd}

def Action.request? : Action → Option Request
  | .request asked => some asked
  | _ => none

/-- What has become of a runner whose host has launched the program first and has since then only
paused and resumed it. -/
inductive OnCourse (geometry : Geometry) (machine : Machine Player) (program : Program)
    (name : String) (faulted : Prop) (runner : Runner Player Lcd) : List Request → Prop
  | fresh (hStage : runner.stage = .fetching ∨ runner.stage = .waiting)
      (hState : runner.control.state = .paused) (hNone : runner.control.commands = [])
      (hQuiet : ¬ faulted) (hMachine : runner.machine = machine)
      (hScreen : runner.screen = Lcd.ofSize name geometry.screen) (hSteps : runner.steps = 0) :
      OnCourse geometry machine program name faulted runner []
  | launched (rest : List Request)
      (hCourse : Course geometry machine program name faulted runner.control.commands
        runner.machine runner.screen runner.steps runner.stage) :
      OnCourse geometry machine program name faulted runner (.launch program :: rest)

namespace OnCourse
variable {faulted : Prop} {requests rest : List Request} {before : Runner Player Lcd}

theorem congr {other : Prop} (h : OnCourse geometry machine program name faulted runner requests)
    (hSame : faulted ↔ other) : OnCourse geometry machine program name other runner requests := by
  rwa [← propext hSame]

theorem notified (h : OnCourse geometry machine program name faulted runner requests) (owed : Nat) :
    OnCourse geometry machine program name faulted
      { runner with owed, stage := runner.stage.notified } requests := by
  cases h with
  | fresh hStage hState hNone hQuiet hMachine hScreen hSteps =>
    have hAwake : runner.stage.notified = .fetching := by
      obtain hStage | hStage := hStage
      · rw [hStage]
        rfl
      · rw [hStage]
        rfl
    exact .fresh (.inl hAwake) hState hNone hQuiet hMachine hScreen hSteps
  | launched rest hCourse => exact .launched rest hCourse.notified

theorem request (h : OnCourse geometry machine program name faulted runner requests)
    {request : Request} (hPlan : requests ++ [request] <+: .launch program :: rest)
    (hRest : ∀ request ∈ rest, request = .pause ∨ request = .resume) (owed : Nat) :
    OnCourse geometry machine program name faulted
      { runner with control := (runner.control.accept request).1, owed := owed }
      (requests ++ [request]) := by
  cases h with
  | fresh hStage hState hNone hQuiet hMachine hScreen hSteps =>
    obtain ⟨rfl, -⟩ := List.cons_prefix_cons.mp hPlan
    refine .launched [] ?_
    have hQueued : (runner.control.accept (.launch program)).1.commands = [.load program] := by
      rw [Control.commands_accept, hNone, Control.admitted, hState]
      rfl
    rw [hQueued]
    obtain hStage | hStage := hStage
    · dsimp only
      rw [hStage]
      exact ⟨hQuiet, .inl ⟨rfl, hMachine, hScreen, hSteps⟩⟩
    · dsimp only
      rw [hStage]
      exact ⟨hQuiet, .inl ⟨rfl, hMachine, hScreen, hSteps⟩⟩
  | launched earlier hCourse =>
    have hMember : request ∈ rest := by
      have hBehind : earlier ++ [request] <+: rest := (List.cons_prefix_cons.mp hPlan).2
      exact hBehind.subset (by simp)
    have hNothing : request.command? = none := by
      obtain rfl | rfl := hRest request hMember
      · rfl
      · rfl
    refine .launched (earlier ++ [request]) ?_
    rw [Control.commands_accept, Control.admitted, hNothing, ite_self, Option.toList_none,
      List.append_nil]
    exact hCourse

theorem turn (h : OnCourse geometry machine program name faulted runner requests)
    (hMachine : WellFormed geometry machine) (hHeight : geometry.screen.height < 0x100000000)
    (turn : Turn playerRig runner next)
    (hLive : runner.stage.leaving = false → runner.control.live = true)
    (hOpen : runner.control.state ≠ .exited) :
    OnCourse geometry machine program name (faulted ∨ runner.stage = .faulting) next requests := by
  cases h with
  | fresh hStage hState hNone hQuiet hSame hScreen hSteps =>
    have hSilent : runner.stage ≠ .faulting := by
      obtain hStage | hStage := hStage
      · simp [hStage]
      · simp [hStage]
    have hStill : ¬ (faulted ∨ runner.stage = .faulting) := not_or.mpr ⟨hQuiet, hSilent⟩
    cases turn with
    | wait => exact .fresh (.inr rfl) hState hNone hStill hSame hScreen hSteps
    | leave hFetching hReason =>
      obtain hDead | ⟨-, hExited⟩ := hReason
      · cases hDead.symm.trans (hLive (by rw [hFetching]; rfl))
      · exact absurd hExited hOpen
    | take _ _ hSome => exact absurd hNone hSome
    | choose _ _ _ hRunning => cases hRunning.symm.trans hState
    | begin hOther | quit hOther | idle hOther | look hOther | rest hOther | stepped hOther
    | stumbled hOther | applied hOther | prepare hOther | resized hOther | misfit hOther
    | loaded hOther | refused hOther | report hOther | start hOther | reject hOther | fault hOther
    | dispose hOther | finish hOther =>
      obtain hStage | hStage := hStage
      · cases hStage.symm.trans hOther
      · cases hStage.symm.trans hOther
  | launched rest hCourse =>
    by_cases hStage : runner.stage = .faulting
    · rw [hStage] at hCourse
      obtain ⟨-, result, hSome, hOver⟩ := hCourse
      refine .launched rest ?_
      cases turn with
      | fault => exact ⟨result, ⟨fun _ => hSome, fun _ => .inr hStage⟩, hOver⟩
      | _ => cases hStage.symm.trans ‹runner.stage = _›
    · have hSame : faulted ↔ faulted ∨ runner.stage = .faulting := by simp [hStage]
      exact (OnCourse.launched rest
        (hCourse.turn hMachine hHeight turn hLive hOpen hStage)).congr hSame

theorem not_rejecting (h : OnCourse geometry machine program name faulted runner requests)
    (batch : List Command) : runner.stage ≠ .rejecting batch := by
  intro hRejecting
  cases h with
  | fresh hStage =>
    obtain hStage | hStage := hStage
    · cases hStage.symm.trans hRejecting
    · cases hStage.symm.trans hRejecting
  | launched rest hCourse =>
    rw [hRejecting] at hCourse
    exact hCourse

theorem exists_launched (h : OnCourse geometry machine program name faulted runner requests)
    (hFetching : runner.stage ≠ .fetching) (hWaiting : runner.stage ≠ .waiting) :
    ∃ rest, requests = .launch program :: rest := by
  cases h with
  | fresh hStage => exact absurd hStage (not_or.mpr ⟨hFetching, hWaiting⟩)
  | launched rest => exact ⟨rest, rfl⟩

theorem of_lost (hRequests : ∃ rest, requests = .launch program :: rest)
    (hStage : runner.stage = .gone true) :
    OnCourse geometry machine program name faulted runner requests := by
  obtain ⟨rest, rfl⟩ := hRequests
  refine .launched rest ?_
  rw [hStage]
  trivial

theorem noted (h : OnCourse geometry machine program name faulted runner requests)
    {action : Action} (hSilent : ¬ Announces before action) :
    OnCourse geometry machine program name
      (faulted ∨ .fault ∈ recorded playerRig [action] before) runner requests := by
  have hNone : .fault ∉ recorded playerRig [action] before :=
    fun hMember => hSilent (announces_of_recorded hMember)
  exact h.congr (or_iff_left hNone).symm

theorem silent (h : OnCourse geometry machine program name faulted runner requests)
    (hMachine : WellFormed geometry machine) (hHeight : geometry.screen.height < 0x100000000)
    {action : Action} (move : Move playerRig runner action next)
    (hSilent : action.request? = none)
    (hLive : runner.stage.leaving = false → runner.control.live = true)
    (hOpen : (∀ crashed, runner.stage ≠ .gone crashed) → runner.control.state ≠ .exited) :
    OnCourse geometry machine program name (faulted ∨ .fault ∈ recorded playerRig [action] runner)
      next requests := by
  cases move with
  | request => cases hSilent
  | signal | wake =>
    refine (h.notified _).noted ?_
    rintro ⟨⟩
  | work turn =>
    refine (h.turn hMachine hHeight turn hLive (hOpen turn.stage_ne_gone)).congr
      (or_congr_right ?_)
    constructor
    · intro hFaulting
      rw [recorded, along_singleton, hFaulting]
      exact .head _
    · intro hMember
      cases announces_of_recorded hMember with
      | faulting hFaulting => exact hFaulting
      | rejecting hRejecting => exact absurd hRejecting (h.not_rejecting _)
  | crash hCall =>
    refine of_lost (h.exists_launched ?_ ?_) rfl
    · intro hStage
      rw [hStage] at hCall
      cases hCall
    · intro hStage
      rw [hStage] at hCall
      cases hCall
  | cancel | drain =>
    refine noted ?_ (by rintro ⟨⟩)
    cases h with
    | fresh hStage hState hNone hQuiet hMachine hScreen hSteps =>
      exact .fresh hStage hState hNone hQuiet hMachine hScreen hSteps
    | launched rest hCourse => exact .launched rest hCourse
  | collect hStage =>
    have hKept : ¬ Announces runner .collect := by
      rintro (_ | _ | hLost)
      cases hStage.symm.trans hLost
    refine noted ?_ hKept
    obtain ⟨rest, rfl⟩ := h.exists_launched (by simp [hStage]) (by simp [hStage])
    cases h with | launched _ hCourse => exact .launched rest hCourse
  | mourn hStage =>
    exact of_lost (h.exists_launched (by simp [hStage]) (by simp [hStage])) hStage

theorem move (h : OnCourse geometry machine program name faulted runner requests)
    (hMachine : WellFormed geometry machine) (hHeight : geometry.screen.height < 0x100000000)
    {action : Action} (move : Move playerRig runner action next)
    (hPlan : requests ++ action.request?.toList <+: .launch program :: rest)
    (hRest : ∀ request ∈ rest, request = .pause ∨ request = .resume)
    (hLive : runner.stage.leaving = false → runner.control.live = true)
    (hOpen : (∀ crashed, runner.stage ≠ .gone crashed) → runner.control.state ≠ .exited) :
    OnCourse geometry machine program name (faulted ∨ .fault ∈ recorded playerRig [action] runner)
      next (requests ++ action.request?.toList) := by
  cases hAsked : action.request? with
  | none =>
    rw [Option.toList_none, List.append_nil]
    exact h.silent hMachine hHeight move hAsked hLive hOpen
  | some request =>
    rw [hAsked] at hPlan
    cases move with
    | request =>
      cases hAsked
      exact (h.request hPlan hRest _).noted (by rintro ⟨⟩)
    | _ => cases hAsked

end OnCourse

end Runner
end Handheld
