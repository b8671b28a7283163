import Handheld.Proofs.Runner.Commands

/-! # The last look at the queue

A worker that leaves at the end of a program looks at its queue for the last time before it looks
at the program. Every command accepted until then has been carried out. One that is accepted
between this look and the exit is dropped.
-/
set_option autoImplicit false
namespace Handheld

def InterpreterCall.isLoad : InterpreterCall → Bool
  | load _ => true
  | _ => false

def Command.isLoad : Command → Bool
  | load _ => true
  | resize _ => false

namespace Stage

/-- The command that a turn of the worker carries out: it hands a program over, or resizes the
screen. -/
def carriesOut : Stage → List Command
  | loading program _ => [.load program]
  | applying (.resize size :: _) => [.resize size]
  | _ => []

def inHand : Stage → List Command
  | loading program _ => [.load program]
  | _ => []

/-- How many turns ago the worker looked at its queue, if it is on the way out that leads from there
past the program. -/
def turnsPast? : Stage → Option Nat
  | chosen => some 0
  | closing => some 1
  | finishing => some 2
  | gone false => some 3
  | _ => none

theorem inHand_notified (stage : Stage) : stage.notified.inHand = stage.inHand := by
  cases stage
  all_goals rfl

theorem turnsPast?_notified (stage : Stage) : stage.notified.turnsPast? = stage.turnsPast? := by
  cases stage
  all_goals rfl

theorem begins_of_turnsPast? {stage : Stage} {turns : Nat} (h : stage.turnsPast? = some turns) :
    stage.begins = [] := by
  cases stage with
  | applying => cases h
  | _ => rfl

end Stage

namespace Runner
variable {ι σ : Type} {rig : Rig ι σ} {runner next : Runner ι σ}

/-- The commands that were carried out, in their order: programs that the interpreter was given, and
sizes that the screen was set to. -/
def carriedOut (rig : Rig ι σ) : List Action → Runner ι σ → List Command :=
  along rig fun _ stage action =>
    match action with
    | .work => stage.carriesOut
    | _ => []

def stages (rig : Rig ι σ) : List Action → Runner ι σ → List Stage :=
  along rig fun _ stage _ => [stage]

theorem Turn.inHand (turn : Turn rig runner next) :
    runner.stage.inHand ++ runner.stage.begins = runner.stage.carriesOut ++ next.stage.inHand := by
  cases turn with
  | stepped hStage | resized hStage | loaded hStage =>
    rw [hStage]
    obtain hAfter | hAfter := stage_redrawThen rig _ _
    all_goals
      rw [hAfter]
      rfl
  | leave hStage | take hStage | choose hStage | wait hStage | begin hStage | quit hStage
  | idle hStage | look hStage | rest hStage | stumbled hStage | applied hStage | prepare hStage
  | misfit hStage | refused hStage | report hStage | start hStage | reject hStage | fault hStage
  | dispose hStage | finish hStage =>
    rw [hStage]
    rfl

theorem begun_eq_of_run {start : Runner ι σ} {actions : List Action}
    (hStart : start.stage.inHand = []) (hRun : actAll rig actions start = some runner)
    (hHere : runner.stage ≠ .gone true) :
    begun rig actions start = carriedOut rig actions start ++ runner.stage.inHand := by
  revert hHere
  refine actAll_induction_along (motive := fun soFar middle => middle.stage ≠ .gone true →
    begun rig soFar start = carriedOut rig soFar start ++ middle.stage.inHand) ?_ ?_ hRun
  · intro _
    rw [hStart]
    rfl
  · intro soFar middle action after hSoFar ih move hHere
    rw [begun, carriedOut, along_concat _ _ hSoFar, along_concat _ _ hSoFar]
    cases move with
    | work turn =>
      calc begun rig soFar start ++ middle.stage.begins
          = carriedOut rig soFar start ++ (middle.stage.inHand ++ middle.stage.begins) := by
            rw [ih (turn.stage_ne_gone true), List.append_assoc]
        _ = carriedOut rig soFar start ++ middle.stage.carriesOut ++ after.stage.inHand := by
            rw [turn.inHand, List.append_assoc]
    | signal | wake =>
      rw [List.append_nil, List.append_nil]
      dsimp only at hHere ⊢
      rw [Stage.inHand_notified]
      exact ih fun hGone => hHere (Stage.notified_eq_gone_iff.mpr hGone)
    | crash => exact absurd rfl hHere
    | request | cancel | drain | collect | mourn =>
      rw [List.append_nil, List.append_nil]
      exact ih hHere

theorem Turn.loads {runner next : Runner (Traced ι) σ} (turn : Turn rig.traced runner next) :
    next.machine.calls.countP InterpreterCall.isLoad =
      runner.machine.calls.countP InterpreterCall.isLoad +
        runner.stage.carriesOut.countP Command.isLoad := by
  cases turn with
  | stepped hStage | stumbled hStage =>
    rw [hStage]
    obtain hSame | ⟨outcome, hCalls⟩ := runner.machine.calls_step rig.interpreter
    · exact congrArg (List.countP InterpreterCall.isLoad) hSame
    · exact (congrArg (List.countP InterpreterCall.isLoad) hCalls).trans
        (List.countP_cons_of_neg Bool.false_ne_true)
  | prepare hStage =>
    rw [hStage]
    have hCalls := runner.machine.calls_prepare rig.interpreter
    split at hCalls
    · exact congrArg (List.countP InterpreterCall.isLoad) hCalls
    · exact (congrArg (List.countP InterpreterCall.isLoad) hCalls).trans
        (List.countP_cons_of_neg Bool.false_ne_true)
  | resized hStage | misfit hStage =>
    rw [hStage]
    exact congrArg (List.countP InterpreterCall.isLoad ∘ Traced.calls)
      (runner.machine.interp_setScreen _)
  | @loaded program _ hStage | @refused program _ hStage =>
    rw [hStage]
    obtain ⟨outcome, hCalls, -⟩ := runner.machine.takeOver_traced rig.interpreter program
    exact (congrArg (List.countP InterpreterCall.isLoad) hCalls).trans (List.countP_cons_of_pos rfl)
  | leave hStage | take hStage | choose hStage | wait hStage | begin hStage | quit hStage
  | idle hStage | look hStage | rest hStage | applied hStage | report hStage | start hStage
  | reject hStage | fault hStage | dispose hStage | finish hStage =>
    rw [hStage]
    rfl

theorem loads_of_run {start runner : Runner (Traced ι) σ} {actions : List Action}
    (hRun : actAll rig.traced actions start = some runner) :
    runner.machine.calls.countP InterpreterCall.isLoad =
      start.machine.calls.countP InterpreterCall.isLoad +
        (carriedOut rig.traced actions start).countP Command.isLoad := by
  refine actAll_induction_along (motive := fun soFar middle =>
    middle.machine.calls.countP InterpreterCall.isLoad =
      start.machine.calls.countP InterpreterCall.isLoad +
        (carriedOut rig.traced soFar start).countP Command.isLoad) rfl ?_ hRun
  intro soFar middle action after hSoFar ih move
  rw [carriedOut, along_concat _ _ hSoFar, List.countP_append, ← Nat.add_assoc]
  cases move with
  | work turn =>
    rw [turn.loads, ih]
    rfl
  | _ => exact ih

def Action.isWork : Action → Bool
  | work => true
  | _ => false

/-- Some turns before, the worker looked at an empty queue and decided on a step, and it has begun
no command since. -/
def LookedLast (rig : Rig ι σ) (start : Runner ι σ) (actions : List Action) (turns : Nat) : Prop :=
  ∃ before after looked, actions = before ++ .work :: after ∧ after.countP Action.isWork = turns ∧
    actAll rig before start = some looked ∧ looked.stage = .fetching ∧
    looked.control.commands = [] ∧ begun rig actions start = begun rig before start

section WayOut
variable {start : Runner ι σ} {actions : List Action} {turns : Nat}

theorem LookedLast.concat {action : Action} (h : LookedLast rig start actions turns)
    (hRun : actAll rig actions start = some runner)
    (hNone : action.isWork = false ∨ runner.stage.begins = []) :
    LookedLast rig start (actions ++ [action]) (turns + action.isWork.toNat) := by
  obtain ⟨before, after, looked, rfl, rfl, hBefore, hStage, hEmpty, hBegun⟩ := h
  refine ⟨before, after ++ [action], looked, ?_, ?_, hBefore, hStage, hEmpty, ?_⟩
  · rw [List.append_assoc, List.cons_append]
  · rw [List.countP_append, List.countP_singleton]
    cases action.isWork
    all_goals rfl
  · refine Eq.trans ?_ hBegun
    rw [begun, along_concat _ _ hRun]
    cases action with
    | work =>
      have hBegins : runner.stage.begins = [] := hNone.resolve_left (by decide)
      dsimp only
      rw [hBegins, List.append_nil]
    | _ => exact List.append_nil _

theorem Turn.wayOut (turn : Turn rig runner next)
    (hStays : runner.stage.leaving = false →
      runner.control.live = true ∧ runner.control.state ≠ .exited)
    (hSound : runner.stage ≠ .faulting) (hPast : next.stage.turnsPast? = some turns) :
    turns = 0 ∧ runner.stage = .fetching ∧ runner.control.commands = [] ∨
      ∃ earlier, turns = earlier + 1 ∧ runner.stage.turnsPast? = some earlier ∧
        (earlier = 0 → rig.exitOnFinish = true) := by
  cases turn with
  | leave hStage hReason =>
    obtain ⟨hLive, hOpen⟩ := hStays (by rw [hStage]; rfl)
    obtain hDead | ⟨-, hExited⟩ := hReason
    · cases hDead.symm.trans hLive
    · exact absurd hExited hOpen
  | choose hStage _ hNone =>
    cases hPast
    exact .inl ⟨rfl, hStage, hNone⟩
  | quit hStage _ hFinish =>
    cases hPast
    exact .inr ⟨0, rfl, by rw [hStage]; rfl, fun _ => hFinish⟩
  | dispose hStage =>
    cases hPast
    exact .inr ⟨1, rfl, by rw [hStage]; rfl, nofun⟩
  | finish hStage =>
    cases hPast
    exact .inr ⟨2, rfl, by rw [hStage]; rfl, nofun⟩
  | fault hStage => exact absurd hStage hSound
  | stepped | resized | loaded =>
    obtain hAfter | hAfter := stage_redrawThen rig _ _
    all_goals
      rw [hAfter] at hPast
      cases hPast
  | _ => cases hPast

theorem lookedLast_of_run (hLive : start.control.live = true)
    (hOpen : start.stage.turnsPast? = none)
    (hExit : ∀ before middle, actAll rig before start = some middle →
      middle.stage.leaving = false → middle.control.state ≠ .exited)
    (hRun : actAll rig actions start = some runner) (hOwn : dismissed rig actions start = [])
    (hSound : .faulting ∉ stages rig actions start)
    (hPast : runner.stage.turnsPast? = some turns) :
    LookedLast rig start actions turns ∧ (turns ≠ 0 → rig.exitOnFinish = true) := by
  revert hOwn hSound turns
  refine actAll_induction_along (motive := fun soFar middle => ∀ {turns : Nat},
    dismissed rig soFar start = [] → .faulting ∉ stages rig soFar start →
      middle.stage.turnsPast? = some turns →
        LookedLast rig start soFar turns ∧ (turns ≠ 0 → rig.exitOnFinish = true)) ?_ ?_ hRun
  · intro _ _ _ hPast
    cases hOpen.symm.trans hPast
  · intro soFar middle action after hSoFar ih move turns hOwn hSound hPast
    rw [dismissed, along_append _ _ hSoFar, List.append_eq_nil_iff] at hOwn
    rw [stages, along_concat _ _ hSoFar, List.mem_append, not_or, List.mem_singleton] at hSound
    cases move with
    | work turn =>
      have hStays (hHere : middle.stage.leaving = false) :
          middle.control.live = true ∧ middle.control.state ≠ .exited :=
        ⟨live_of_run hLive hSoFar hOwn.1 hHere, hExit soFar middle hSoFar hHere⟩
      obtain ⟨rfl, hStage, hNone⟩ | ⟨earlier, rfl, hBefore, hQuit⟩ :=
        turn.wayOut hStays (Ne.symm hSound.2) hPast
      · refine ⟨⟨soFar, [], middle, rfl, rfl, hSoFar, hStage, hNone, ?_⟩, absurd rfl⟩
        rw [begun, along_concat _ _ hSoFar, hStage]
        exact List.append_nil _
      · obtain ⟨hLooked, hFinish⟩ := ih hOwn.1 hSound.1 hBefore
        refine ⟨hLooked.concat hSoFar (.inr (Stage.begins_of_turnsPast? hBefore)), fun _ => ?_⟩
        by_cases hFirst : earlier = 0
        · exact hQuit hFirst
        · exact hFinish hFirst
    | signal | wake =>
      dsimp only at hPast
      rw [Stage.turnsPast?_notified] at hPast
      obtain ⟨hLooked, hFinish⟩ := ih hOwn.1 hSound.1 hPast
      exact ⟨hLooked.concat hSoFar (.inl rfl), hFinish⟩
    | crash => cases hPast
    | request | cancel | drain | collect | mourn =>
      obtain ⟨hLooked, hFinish⟩ := ih hOwn.1 hSound.1 hPast
      exact ⟨hLooked.concat hSoFar (.inl rfl), hFinish⟩

end WayOut

/-- A worker that leaves by itself and without an error leaves at the end of a program. In the turn
before its last three it found its queue empty. It has carried out what was accepted until then, so
that the interpreter was given as many programs, and what is accepted later is lost. -/
theorem carried_of_exit (rig : Rig ι σ) (machine : Machine ι) (screen : σ) (slots : Nat)
    (actions : List Action) (final : Runner ι σ)
    (hRun : actAll rig actions (create machine screen slots) = some final)
    (hGone : final.stage = .gone false)
    (hOwn : dismissed rig actions (create machine screen slots) = [])
    (hSound : .faulting ∉ stages rig actions (create machine screen slots)) :
    let start := create machine screen slots
    rig.exitOnFinish = true ∧
    ∃ before after looked, actions = before ++ .work :: after ∧
      after.countP Action.isWork = 3 ∧
      actAll rig before start = some looked ∧ looked.stage = .fetching ∧
      looked.control.commands = [] ∧
      carriedOut rig actions start = accepted rig before start ∧
      accepted rig actions start =
        carriedOut rig actions start ++ accepted rig (.work :: after) looked ∧
      ∃ runner : Runner (Traced ι) σ,
        actAll rig.traced actions (create machine.traced screen slots) = some runner ∧
        runner.untraced = final ∧
        runner.machine.calls.countP InterpreterCall.isLoad =
          machine.traced.calls.countP InterpreterCall.isLoad +
            (accepted rig before start).countP Command.isLoad := by
  intro start
  have hExit : ∀ before middle, actAll rig before start = some middle →
      middle.stage.leaving = false → middle.control.state ≠ .exited := by
    intro before middle hBefore hStays
    refine (departed_of_run hBefore).not_exited ?_
    intro crashed hCrashed
    rw [hCrashed] at hStays
    cases hStays
  have hLive : start.control.live = true := rfl
  have hOpen : start.stage.turnsPast? = none := rfl
  have hPast : final.stage.turnsPast? = some 3 := by rw [hGone]; rfl
  obtain ⟨⟨before, after, looked, rfl, hTurns, hBefore, hStage, hEmpty, hBegun⟩, hFinish⟩ :=
    lookedLast_of_run hLive hOpen hExit hRun hOwn hSound hPast
  have hDone : begun rig (before ++ .work :: after) start =
      carriedOut rig (before ++ .work :: after) start := by
    rw [begun_eq_of_run rfl hRun (by rw [hGone]; exact nofun), hGone]
    exact List.append_nil _
  have hAccepted : accepted rig before start = begun rig before start := by
    rw [(delivered_of_run (delivered_create machine screen slots) hBefore).whole
      (by rw [hStage]; rfl), hStage, hEmpty]
    exact List.append_nil _
  have hCarried : carriedOut rig (before ++ .work :: after) start = accepted rig before start := by
    rw [← hDone, hBegun, hAccepted]
  have hAll : accepted rig (before ++ .work :: after) start =
      carriedOut rig (before ++ .work :: after) start ++ accepted rig (.work :: after) looked := by
    rw [hCarried]
    exact along_append _ _ hBefore
  obtain ⟨runner, hTraced, hSame⟩ :=
    exists_traced_of_actAll (create machine.traced screen slots) hRun
  refine ⟨hFinish (by decide), before, after, looked, rfl, hTurns, hBefore, hStage, hEmpty,
    hCarried, hAll, runner, hTraced, hSame, ?_⟩
  have hUntraced : carriedOut rig.traced (before ++ .work :: after)
      (create machine.traced screen slots) = carriedOut rig (before ++ .work :: after) start :=
    along_traced _ rig _ _
  rw [loads_of_run hTraced, hUntraced, hCarried]
  rfl

/-- The second program comes when the worker has found its queue empty and has not yet seen that the
first one is at its end. -/
def overlooked : List Action :=
  .request (.launch ⟨"first", #[0x61]⟩) :: .replicate 10 .work ++
    [.request (.launch ⟨"second", #[0x63]⟩), .work, .work, .work]

/-- The second program is accepted, and never given to the interpreter. -/
theorem carried_of_overlooked :
    let start machine := create machine (Lcd.ofSize "lcd" ⟨16, 32⟩) 4
    ∃ machine final before after looked runner,
      Machine.create ⟨⟨16, 32⟩, 8, 1⟩ (Counted.start Player.idle) = .ok machine ∧
      actAll balkyRig overlooked (start machine) = some final ∧
      final.stage = .gone false ∧ final.control.commands = [] ∧
      accepted balkyRig overlooked (start machine) =
        [.load ⟨"first", #[0x61]⟩, .load ⟨"second", #[0x63]⟩] ∧
      carriedOut balkyRig overlooked (start machine) = [.load ⟨"first", #[0x61]⟩] ∧
      overlooked = before ++ .work :: after ∧ after.countP Action.isWork = 3 ∧
      accepted balkyRig before (start machine) = [.load ⟨"first", #[0x61]⟩] ∧
      accepted balkyRig (.work :: after) looked = [.load ⟨"second", #[0x63]⟩] ∧
      actAll balkyRig.traced overlooked
        (create machine.traced (Lcd.ofSize "lcd" ⟨16, 32⟩) 4) = some runner ∧
      runner.untraced = final ∧ runner.machine.calls.countP InterpreterCall.isLoad = 1 := by
  intro start
  have hRun : ∃ machine,
      Machine.create ⟨⟨16, 32⟩, 8, 1⟩ (Counted.start Player.idle) = .ok machine ∧
      (actAll balkyRig overlooked (start machine)).map
          (fun final => (final.stage, final.control.commands)) = some (.gone false, []) ∧
      accepted balkyRig overlooked (start machine) =
        [.load ⟨"first", #[0x61]⟩, .load ⟨"second", #[0x63]⟩] ∧
      carriedOut balkyRig overlooked (start machine) = [.load ⟨"first", #[0x61]⟩] ∧
      dismissed balkyRig overlooked (start machine) = [] ∧
      .faulting ∉ stages balkyRig overlooked (start machine) := by
    refine ⟨_, rfl, ?_, ?_, ?_, ?_, ?_⟩
    · decide +kernel
    · decide +kernel
    · decide +kernel
    · decide +kernel
    · decide +kernel
  obtain ⟨machine, hCreate, hMap, hAccepted, hCarried, hOwn, hSound⟩ := hRun
  obtain ⟨final, hFinal, hEnd⟩ := Option.map_eq_some_iff.mp hMap
  obtain ⟨hGone, hEmpty⟩ := Prod.mk.inj hEnd
  obtain ⟨-, before, after, looked, hSplit, hTurns, -, -, -, hEarlier, hAll, runner, hTraced, hSame,
    hLoads⟩ := carried_of_exit balkyRig machine _ 4 overlooked final hFinal hGone hOwn hSound
  have hOne : accepted balkyRig before (start machine) = [.load ⟨"first", #[0x61]⟩] :=
    hEarlier.symm.trans hCarried
  have hTwo : [Command.load ⟨"first", #[0x61]⟩] ++ accepted balkyRig (.work :: after) looked =
      [.load ⟨"first", #[0x61]⟩] ++ [.load ⟨"second", #[0x63]⟩] := by
    rw [← hCarried, ← hAll, hAccepted, hCarried]
    rfl
  have hLost : accepted balkyRig (.work :: after) looked = [.load ⟨"second", #[0x63]⟩] :=
    List.append_cancel_left hTwo
  have hGiven : runner.machine.calls.countP InterpreterCall.isLoad = 1 := by
    rw [hLoads, hOne]
    cases hCreate
    rfl
  exact ⟨machine, final, before, after, looked, runner, hCreate, hFinal, hGone, hEmpty, hAccepted,
    hCarried, hSplit, hTurns, hOne, hLost, hTraced, hSame, hGiven⟩

end Runner
end Handheld
