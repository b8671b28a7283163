import Handheld.Proofs.Runner.Exit
import Handheld.Proofs.Runner.History

/-! # Notice of the exit

A worker that leaves says so itself, as its last act. One that was lost in a call cannot, and the
host learns of it only when it takes back what the worker has left: until then the control block
stays as it was, and commands are still queued.
-/
set_option autoImplicit false
namespace Handheld

/-- A wait of the host for the exit. Each look finds a state and whether it is late by then; a wait
that is late gives up, and another one sleeps until the next look. -/
def awaitExit : List (RunState × Bool) → Bool
  | [] => false
  | (state, late) :: looks => state == .exited || !late && awaitExit looks

theorem awaitExit_of_exited (late : Bool) (looks : List (RunState × Bool)) :
    awaitExit ((.exited, late) :: looks) = true := rfl

namespace Runner
variable {ι σ : Type} {rig : Rig ι σ} {runner next : Runner ι σ}

theorem Turn.collected (turn : Turn rig runner next) : next.collected = runner.collected := by
  cases turn with
  | _ => rfl

/-- Of a lost worker the exit is on record exactly if the host has taken back what it left. -/
structure Noticed (runner : Runner ι σ) : Prop where
  collected_of_exited : runner.control.state = .exited → runner.stage = .gone true →
    runner.collected = true
  exited_of_collected : runner.collected = true → runner.control.state = .exited

namespace Noticed
variable {actions : List Action}

theorem turn (h : Noticed runner) (hDeparted : Departed actions runner)
    (turn : Turn rig runner next) : Noticed next := by
  have hOpen := hDeparted.not_exited turn.stage_ne_gone
  have hLeft : next.collected ≠ true := by
    rw [turn.collected]
    exact fun hTaken => hOpen (h.exited_of_collected hTaken)
  have hHere : next.stage ≠ .gone true := by
    obtain ⟨-, hStage⟩ | ⟨-, hHere⟩ := turn.closes
    · rw [hStage]
      exact nofun
    · exact hHere true
  exact ⟨fun _ hLost => absurd hLost hHere, fun hTaken => absurd hTaken hLeft⟩

theorem request (h : Noticed runner) (request : Request) (owed : Nat) :
    Noticed { runner with control := (runner.control.accept request).1, owed } := by
  by_cases hExited : runner.control.state = .exited
  · exact ⟨fun _ => h.collected_of_exited hExited, fun _ =>
      (runner.control.state_accept request).trans (if_pos hExited)⟩
  · constructor
    · intro hAfter
      dsimp only at hAfter
      rw [Control.state_accept, if_neg hExited] at hAfter
      cases request with
      | launch | pause | resume => cases hAfter
      | resize => exact absurd hAfter hExited
    · exact fun hTaken => absurd (h.exited_of_collected hTaken) hExited

theorem move {action : Action} (h : Noticed runner) (hDeparted : Departed actions runner)
    (move : Move rig runner action next) : Noticed next := by
  cases move with
  | request request => exact h.request request _
  | work turn => exact h.turn hDeparted turn
  | signal | wake =>
    exact ⟨fun hExited hLost => h.collected_of_exited hExited
      (Stage.notified_eq_gone_iff.mp hLost), h.exited_of_collected⟩
  | cancel | drain => exact ⟨h.collected_of_exited, h.exited_of_collected⟩
  | crash hCall =>
    refine ⟨fun hExited => absurd hExited (hDeparted.not_exited ?_), h.exited_of_collected⟩
    intro crashed hGone
    rw [hGone] at hCall
    cases hCall
  | collect hStage => exact ⟨fun _ _ => rfl, fun _ => (hDeparted.shut_of_gone hStage).1⟩
  | mourn => exact ⟨fun _ _ => rfl, fun _ => rfl⟩

end Noticed

theorem noticed_of_run {machine : Machine ι} {screen : σ} {slots : Nat} {actions : List Action}
    (hRun : actAll rig actions (create machine screen slots) = some runner) : Noticed runner := by
  have hStart : Noticed (create machine screen slots) := ⟨nofun, nofun⟩
  refine actAll_induction_along (motive := fun _ middle => Noticed middle) hStart ?_ hRun
  intro _ _ _ _ hSoFar h move
  exact h.move (departed_of_run hSoFar) move

section Gone
variable {actions : List Action} {crashed : Bool}

theorem exited_iff_of_gone (h : Noticed runner) (hDeparted : Departed actions runner)
    (hGone : runner.stage = .gone crashed) :
    runner.control.state = .exited ↔ crashed = false ∨ runner.collected = true := by
  cases crashed with
  | false => exact ⟨fun _ => .inl rfl, fun _ => (hDeparted.shut_of_gone hGone).1⟩
  | true =>
    constructor
    · exact fun hExited => .inr (h.collected_of_exited hExited hGone)
    · rintro (hLeft | hTaken)
      · cases hLeft
      · exact h.exited_of_collected hTaken

theorem exists_collected (hDeparted : Departed actions runner) (rig : Rig ι σ)
    (hGone : runner.stage = .gone crashed) (hLeft : runner.collected = false) :
    ∃ after, runner.act rig .collect = some after ∧ after.control.state = .exited := by
  rw [act, hLeft, if_neg Bool.false_ne_true, hGone]
  cases crashed with
  | false => exact ⟨_, rfl, (hDeparted.shut_of_gone hGone).1⟩
  | true => exact ⟨_, rfl, rfl⟩

end Gone

/-- The exit of a worker that is gone is on record exactly if it was not lost or if the host has
taken back what it left, which is possible once. From then on every wait for the exit succeeds and
no request gets a command into the queue. -/
theorem notice_of_run (rig : Rig ι σ) (machine : Machine ι) (screen : σ) (slots : Nat)
    (actions : List Action) (final : Runner ι σ) (crashed : Bool)
    (hRun : actAll rig actions (create machine screen slots) = some final)
    (hGone : final.stage = .gone crashed) :
    (final.control.state = .exited ↔ crashed = false ∨ final.collected = true) ∧
    (final.collected = false →
      ∃ after, final.act rig .collect = some after ∧ after.control.state = .exited) ∧
    (final.control.state = .exited →
      ∀ later last, actAll rig later final = some last →
        last.control.state = .exited ∧
        (∀ late looks, awaitExit ((last.control.state, late) :: looks) = true) ∧
        ∀ request, last.control.admitted request = none ∧
          ∃ after, last.act rig (.request request) = some after ∧
            after.control.commands = last.control.commands) := by
  have hDeparted : Departed actions final := departed_of_run hRun
  refine ⟨exited_iff_of_gone (noticed_of_run hRun) hDeparted hGone,
    exists_collected hDeparted rig hGone, ?_⟩
  intro hExited later last hLater
  have hStill : last.control.state = .exited := exited_of_run hExited hLater
  refine ⟨hStill, ?_, ?_⟩
  · intro late looks
    rw [hStill]
    exact awaitExit_of_exited late looks
  · intro request
    obtain ⟨resumeAfterLoad, hAct⟩ := act_request_of_exited rig hStill request
    exact ⟨if_pos hStill, _, hAct, rfl⟩

/-- The first step of the program does not come back. -/
def lostInStep : List Action :=
  .request (.launch ⟨"first", #[0x61, 0x62]⟩) :: .replicate 8 .work ++ [.crash]

/-- The worker is gone, and yet the machine is said to run, a wait for the exit fails, and another
program is queued. -/
theorem unnoticed_of_lostInStep :
    let second : Program := ⟨"second", #[0x63]⟩
    ∃ machine final after,
      Machine.create ⟨⟨16, 32⟩, 8, 1⟩ (Counted.start Player.idle) = .ok machine ∧
      actAll balkyRig lostInStep (create machine (Lcd.ofSize "lcd" ⟨16, 32⟩) 4) = some final ∧
      final.stage = .gone true ∧ final.control.state = .running ∧
      awaitExit [(final.control.state, true)] = false ∧
      final.act balkyRig (.request (.launch second)) = some after ∧
      after.stage = .gone true ∧ after.control.commands = [.load second] := by
  intro second
  have hRun : ∃ machine,
      Machine.create ⟨⟨16, 32⟩, 8, 1⟩ (Counted.start Player.idle) = .ok machine ∧
      (actAll balkyRig lostInStep (create machine (Lcd.ofSize "lcd" ⟨16, 32⟩) 4)).map
          (fun final => (final.stage, final.control.state)) = some (.gone true, .running) ∧
      (actAll balkyRig (lostInStep ++ [.request (.launch second)])
          (create machine (Lcd.ofSize "lcd" ⟨16, 32⟩) 4)).map
          (fun after => (after.stage, after.control.commands)) =
        some (.gone true, [.load second]) := by
    refine ⟨_, rfl, ?_, ?_⟩
    · decide +kernel
    · decide +kernel
  obtain ⟨machine, hCreate, hFirst, hSecond⟩ := hRun
  obtain ⟨final, hFinal, hHere⟩ := Option.map_eq_some_iff.mp hFirst
  obtain ⟨after, hAfter, hThere⟩ := Option.map_eq_some_iff.mp hSecond
  obtain ⟨hGone, hRunning⟩ := Prod.mk.inj hHere
  obtain ⟨hStill, hQueued⟩ := Prod.mk.inj hThere
  rw [actAll_append, hFinal] at hAfter
  refine ⟨machine, final, after, hCreate, hFinal, hGone, hRunning, ?_, ?_, hStill, hQueued⟩
  · rw [hRunning]
    rfl
  · exact (actAll_singleton _ final).symm.trans hAfter

/-- Told to leave, the worker that was lost is taken note of, and nothing is queued for it. -/
theorem notice_of_lostInStep :
    ∃ machine final,
      Machine.create ⟨⟨16, 32⟩, 8, 1⟩ (Counted.start Player.idle) = .ok machine ∧
      actAll balkyRig (lostInStep ++ [.cancel, .collect])
        (create machine (Lcd.ofSize "lcd" ⟨16, 32⟩) 4) = some final ∧
      final.stage = .gone true ∧ final.collected = true ∧ final.control.state = .exited ∧
      awaitExit [(final.control.state, true)] = true ∧
      final.control.admitted (.launch ⟨"second", #[0x63]⟩) = none := by
  have hRun : ∃ machine,
      Machine.create ⟨⟨16, 32⟩, 8, 1⟩ (Counted.start Player.idle) = .ok machine ∧
      (actAll balkyRig (lostInStep ++ [.cancel, .collect])
          (create machine (Lcd.ofSize "lcd" ⟨16, 32⟩) 4)).map
          (fun final => (final.stage, final.collected)) = some (.gone true, true) := by
    refine ⟨_, rfl, ?_⟩
    decide +kernel
  obtain ⟨machine, hCreate, hMap⟩ := hRun
  obtain ⟨final, hFinal, hEnd⟩ := Option.map_eq_some_iff.mp hMap
  obtain ⟨hGone, hTaken⟩ := Prod.mk.inj hEnd
  obtain ⟨hIff, -, hAfter⟩ := notice_of_run balkyRig machine _ 4 _ final true hFinal hGone
  have hExited : final.control.state = .exited := hIff.mpr (.inr hTaken)
  obtain ⟨-, hWait, hRequest⟩ := hAfter hExited [] final rfl
  exact ⟨machine, final, hCreate, hFinal, hGone, hTaken, hExited, hWait true [],
    (hRequest _).1⟩

end Runner
end Handheld
