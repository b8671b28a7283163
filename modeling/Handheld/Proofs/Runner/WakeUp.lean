import Handheld.Proofs.Runner.Commands

/-! # Wake-ups

A worker with nothing to do sleeps until it is told. A request that changes this and the
notification that follows it are two actions, and the worker may act between them; even so, a worker
that sleeps over something to do has a notification coming, and finds it when that arrives.
-/
set_option autoImplicit false
namespace Handheld

namespace Control

/-- The worker would find nothing to do here. -/
structure Workless (control : Control) : Prop where
  live : control.live = true
  commands : control.commands = []
  state : control.state = .paused

variable {control : Control}

theorem workless_accept_iff (h : Workless control) (request : Request) :
    (control.accept request).1.Workless ↔ (control.accept request).2 = false := by
  obtain ⟨hLive, hNone, hState⟩ := h
  have hOpen : control.state ≠ .exited := by simp [hState]
  cases request with
  | launch program =>
    rw [accept, if_neg hOpen]
    constructor
    · rintro ⟨-, hQueue, -⟩
      simp [enqueue] at hQueue
    · rintro ⟨⟩
  | pause =>
    constructor
    · intro _
      simp [accept, enters, hState]
    · intro _
      refine ⟨?_, ?_, ?_⟩
      · rw [live_accept, hLive]
      · rw [commands_accept, hNone]
        simp [admitted, Request.command?]
      · rw [state_accept, if_neg hOpen]
        rfl
  | resume =>
    constructor
    · rintro ⟨-, -, hPaused⟩
      rw [state_accept, if_neg hOpen] at hPaused
      cases hPaused
    · intro hQuiet
      simp [accept, enters, hState] at hQuiet
  | resize size =>
    rw [accept, if_neg hOpen]
    constructor
    · rintro ⟨-, hQueue, -⟩
      simp [enqueue] at hQueue
    · rintro ⟨⟩

end Control

namespace Runner
variable {ι σ : Type} {rig : Rig ι σ} {runner next : Runner ι σ}

theorem stage_fetch_eq_waiting_iff : runner.fetch.stage = .waiting ↔ runner.control.Workless := by
  constructor
  · intro hStage
    rw [fetch] at hStage
    split at hStage
    · cases hStage
    · rename_i hLive
      split at hStage
      · rename_i hNone
        refine ⟨by simpa using hLive, List.isEmpty_iff.mp hNone, ?_⟩
        cases hState : runner.control.state
        all_goals simp_all
      · cases hStage
  · rintro ⟨hLive, hNone, hState⟩
    simp [fetch, hLive, hNone, hState]

theorem Turn.workless (turn : Turn rig runner next) (hWaiting : next.stage = .waiting) :
    next.control.Workless := by
  cases turn with
  | wait _ hLive hNone hState => exact ⟨hLive, hNone, hState⟩
  | stepped | resized | loaded =>
    obtain hStage | hStage := stage_redrawThen rig _ _
    all_goals cases hWaiting.symm.trans hStage
  | _ => cases hWaiting

/-- A worker that sleeps with no notification coming misses nothing. -/
def Roused (runner : Runner ι σ) : Prop :=
  runner.stage = .waiting → runner.owed = 0 → runner.control.Workless

theorem Roused.request (h : Roused runner) (request : Request) :
    Roused { runner with
      control := (runner.control.accept request).1
      owed := runner.owed + (runner.control.accept request).2.toNat } := by
  intro hWaiting hOwed
  dsimp only at hWaiting hOwed ⊢
  have hBefore := h hWaiting (by omega)
  refine (Control.workless_accept_iff hBefore request).mpr ?_
  cases hTold : (runner.control.accept request).2 with
  | false => rfl
  | true =>
    rw [hTold] at hOwed
    simp at hOwed

theorem Roused.move {action : Action} (h : Roused runner) (move : Move rig runner action next) :
    Roused next := by
  cases move with
  | request request => exact h.request request
  | cancel =>
    intro _ hOwed
    cases hOwed
  | signal | wake =>
    intro hWaiting
    dsimp only at hWaiting
    have hAwake := runner.stage.asleep_notified
    rw [hWaiting] at hAwake
    cases hAwake
  | work turn => exact fun hWaiting _ => turn.workless hWaiting
  | crash => exact nofun
  | drain =>
    intro hWaiting hOwed
    obtain ⟨hLive, hNone, hState⟩ := h hWaiting hOwed
    exact ⟨hLive, hNone, hState⟩
  | collect hStage | mourn hStage =>
    intro hWaiting
    cases hStage.symm.trans hWaiting

theorem roused_of_run {machine : Machine ι} {screen : σ} {slots : Nat} {actions : List Action}
    (hRun : actAll rig actions (create machine screen slots) = some runner) : Roused runner := by
  have hStart : Roused (create machine screen slots) := nofun
  refine actAll_induction (motive := fun _ middle => Roused middle) hStart ?_ hRun
  intro _ _ _ _ h move
  exact h.move move

theorem Move.live_eq_false {action : Action} (move : Move rig runner action next)
    (h : runner.control.live = false) : next.control.live = false := by
  cases move with
  | request request => exact (Control.live_accept _ request).trans h
  | cancel => rfl
  | signal | wake | crash | drain | collect | mourn => exact h
  | work turn =>
    cases turn with
    | start => exact (Control.live_startLoaded _).trans h
    | finish => rfl
    | _ => exact h

theorem live_eq_false_of_run {start : Runner ι σ} {actions : List Action}
    (hCancel : .cancel ∈ actions) (hRun : actAll rig actions start = some runner) :
    runner.control.live = false := by
  revert hCancel
  refine actAll_induction (motive := fun soFar middle =>
    .cancel ∈ soFar → middle.control.live = false) nofun ?_ hRun
  intro soFar middle action after ih move hCancel
  obtain hEarlier | hLast := List.mem_append.mp hCancel
  · exact move.live_eq_false (ih hEarlier)
  · cases List.mem_singleton.mp hLast
    cases move
    rfl

/-- A notification is on its way, and the worker that it wakes finds something to do. -/
def Awakens (rig : Rig ι σ) (runner : Runner ι σ) : Prop :=
  ∃ woken busy, runner.act rig .signal = some woken ∧ woken.stage = .fetching ∧
    woken.control = runner.control ∧ woken.act rig .work = some busy ∧ busy.stage ≠ .waiting

theorem awakens_of_owed (rig : Rig ι σ) (hWaiting : runner.stage = .waiting)
    (hOwed : runner.owed ≠ 0) (hWork : ¬ runner.control.Workless) : Awakens rig runner := by
  let woken := { runner with owed := runner.owed - 1, stage := .fetching }
  have hSignal : runner.act rig .signal = some woken := by
    rw [act, if_neg hOwed, hWaiting]
    rfl
  refine ⟨woken, woken.fetch, hSignal, rfl, rfl, rfl, ?_⟩
  rw [ne_eq, stage_fetch_eq_waiting_iff]
  exact hWork

theorem Roused.awakens (h : Roused runner) (rig : Rig ι σ) (hWaiting : runner.stage = .waiting)
    (hWork : ¬ runner.control.Workless) : Awakens rig runner :=
  awakens_of_owed rig hWaiting (fun hOwed => hWork (h hWaiting hOwed)) hWork

/-- A worker that waits with no notification on its way has nothing to do. Whatever gives it
something to do also notifies it, and the notification finds it there. -/
theorem wakeUp_of_run (rig : Rig ι σ) (machine : Machine ι) (screen : σ) (slots : Nat)
    (actions : List Action) (final : Runner ι σ)
    (hRun : actAll rig actions (create machine screen slots) = some final)
    (hWaiting : final.stage = .waiting) :
    (final.owed = 0 →
      final.control.live = true ∧ final.control.commands = [] ∧
      final.control.state = .paused) ∧
    (¬ final.control.Workless → Awakens rig final) ∧
    (∀ request after, final.act rig (.request request) = some after →
      final.control.Workless → ¬ after.control.Workless →
      after.owed = final.owed + 1 ∧ Awakens rig after) ∧
    (∀ after, final.act rig .cancel = some after →
      after.owed = final.owed + 1 ∧ Awakens rig after) ∧
    (.cancel ∈ actions → Awakens rig final) := by
  have hRoused : Roused final := roused_of_run hRun
  refine ⟨fun hOwed => ?_, hRoused.awakens rig hWaiting, ?_, ?_, fun hCancel => ?_⟩
  · obtain ⟨hLive, hNone, hState⟩ := hRoused hWaiting hOwed
    exact ⟨hLive, hNone, hState⟩
  · intro request after hAct hIdle hWork
    cases move_of_act hAct
    have hTold : (final.control.accept request).2 = true := by
      rw [Control.workless_accept_iff hIdle] at hWork
      exact eq_true_of_ne_false hWork
    constructor
    · dsimp only
      rw [hTold]
      rfl
    · exact (hRoused.request request).awakens rig hWaiting hWork
  · intro after hAct
    cases hAct
    exact ⟨rfl, awakens_of_owed rig hWaiting (Nat.succ_ne_zero _) nofun⟩
  · have hDismissed : final.control.live = false := live_eq_false_of_run hCancel hRun
    refine hRoused.awakens rig hWaiting ?_
    rintro ⟨hLive, -, -⟩
    exact Bool.noConfusion (hLive.symm.trans hDismissed)

/-- A pause comes in the middle of the first step, and both notifications arrive before the worker
goes to sleep. -/
def pausedInStep : List Action :=
  .request (.launch ⟨"first", #[0x61, 0x62]⟩) :: .replicate 8 .work ++
    [.request .pause, .signal, .signal, .work, .work]

theorem wakeUp_of_pausedInStep :
    ∃ machine asleep told dismissed,
      Machine.create ⟨⟨16, 32⟩, 8, 1⟩ (Counted.start Player.idle) = .ok machine ∧
      actAll balkyRig pausedInStep (create machine (Lcd.ofSize "lcd" ⟨16, 32⟩) 4) = some asleep ∧
      asleep.stage = .waiting ∧ asleep.machine.phase = .ready ∧ asleep.control.Workless ∧
      asleep.act balkyRig (.request .resume) = some told ∧ told.owed = 1 ∧
      Awakens balkyRig told ∧
      asleep.act balkyRig .cancel = some dismissed ∧ Awakens balkyRig dismissed := by
  have hRun : ∃ machine,
      Machine.create ⟨⟨16, 32⟩, 8, 1⟩ (Counted.start Player.idle) = .ok machine ∧
      (actAll balkyRig pausedInStep (create machine (Lcd.ofSize "lcd" ⟨16, 32⟩) 4)).map
        (fun asleep => (asleep.stage, asleep.owed, asleep.machine.phase)) =
          some (.waiting, 0, .ready) := by
    refine ⟨_, rfl, ?_⟩
    decide +kernel
  obtain ⟨machine, hCreate, hMap⟩ := hRun
  obtain ⟨asleep, hAsleep, hEnd⟩ := Option.map_eq_some_iff.mp hMap
  simp only [Prod.mk.injEq] at hEnd
  obtain ⟨hWaiting, hOwed, hPhase⟩ := hEnd
  obtain ⟨hIdle, -, hRequest, hCancel, -⟩ :=
    wakeUp_of_run balkyRig machine _ 4 _ asleep hAsleep hWaiting
  obtain ⟨hLive, hNone, hState⟩ := hIdle hOwed
  have hWorkless : asleep.control.Workless := ⟨hLive, hNone, hState⟩
  have hRunning : ¬ (asleep.control.accept .resume).1.Workless := by
    rintro ⟨-, -, hPaused⟩
    rw [Control.state_accept, hState] at hPaused
    cases hPaused
  obtain ⟨hTold, hAwakens⟩ := hRequest .resume _ rfl hWorkless hRunning
  exact ⟨machine, asleep, _, _, hCreate, hAsleep, hWaiting, hPhase, hWorkless, rfl,
    hTold.trans (congrArg (· + 1) hOwed), hAwakens, rfl, (hCancel _ rfl).2⟩

end Runner
end Handheld
