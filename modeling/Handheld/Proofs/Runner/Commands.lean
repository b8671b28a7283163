import Handheld.Proofs.Runner.History
import Handheld.Proofs.Runner.Wishes

/-! # Commands

A command goes from the host into the queue, with the whole queue into a batch of the worker, and
from there to its application. What was accepted is at all times what was begun, then what is left
of the batch, then what is queued; and with either of these left the worker decides on no step.
-/
set_option autoImplicit false
namespace Handheld
namespace Stage

def batch : Stage → List Command
  | applying batch => batch
  | loading _ rest | reporting rest | starting rest | rejecting rest => rest
  | _ => []

def asleep : Stage → Bool
  | waiting | resting => true
  | _ => false

def handsOver : Stage → Bool
  | loading _ _ => true
  | _ => false

variable (stage : Stage)

theorem batch_notified : stage.notified.batch = stage.batch := by
  cases stage
  all_goals rfl

theorem asleep_notified : stage.notified.asleep = false := by
  cases stage
  all_goals rfl

theorem handsOver_notified : stage.notified.handsOver = stage.handsOver := by
  cases stage
  all_goals rfl

theorem exists_batch_eq : ∃ rest, stage.batch = stage.begins ++ rest := by
  cases stage with
  | applying batch =>
    cases batch with
    | nil => exact ⟨[], rfl⟩
    | cons command rest => exact ⟨rest, rfl⟩
  | loading | reporting | starting | rejecting => exact ⟨_, rfl⟩
  | _ => exact ⟨[], rfl⟩

variable {stage}

theorem begins_of_leaving (h : stage.leaving = true) : stage.begins = [] := by
  cases stage with
  | applying => cases h
  | _ => rfl

theorem batch_of_asleep (h : stage.asleep = true) : stage.batch = [] := by
  cases stage with
  | waiting | resting => rfl
  | _ => cases h

theorem not_leaving_of_asleep (h : stage.asleep = true) : stage.leaving = false := by
  cases stage with
  | waiting | resting => rfl
  | _ => cases h

end Stage

namespace Runner
variable {ι σ : Type}

section Delivery
variable {rig : Rig ι σ} {runner next : Runner ι σ} {earlier started : List Command}

theorem Turn.commands (turn : Turn rig runner next) (hStays : next.stage.leaving = false) :
    runner.stage.leaving = false ∧
      runner.stage.batch ++ runner.control.commands =
        runner.stage.begins ++ (next.stage.batch ++ next.control.commands) := by
  cases turn with
  | leave | quit | stumbled | misfit | fault | dispose | finish => cases hStays
  | take hStage =>
    rw [hStage]
    exact ⟨rfl, (List.append_nil _).symm⟩
  | start hStage =>
    rw [hStage]
    exact ⟨rfl, congrArg (_ ++ ·) (Control.commands_startLoaded _).symm⟩
  | resized hStage | loaded hStage | stepped hStage =>
    obtain hAfter | hAfter := stage_redrawThen rig _ _
    · rw [hAfter, hStage]
      exact ⟨rfl, rfl⟩
    · rw [hAfter] at hStays
      cases hStays
  | choose hStage | wait hStage | begin hStage | idle hStage | look hStage | rest hStage
  | applied hStage | prepare hStage | refused hStage | report hStage | reject hStage =>
    rw [hStage]
    exact ⟨rfl, rfl⟩

theorem Turn.commands_of_asleep (turn : Turn rig runner next) (hAsleep : next.stage.asleep = true) :
    next.control.commands = [] := by
  cases turn with
  | wait _ _ hNone | rest _ _ hNone => exact hNone
  | stepped | resized | loaded =>
    obtain hAfter | hAfter := stage_redrawThen rig _ _
    all_goals
      rw [hAfter] at hAsleep
      cases hAsleep
  | _ => cases hAsleep

theorem Turn.begins_of_handsOver (turn : Turn rig runner next)
    (hHands : next.stage.handsOver = true) : runner.stage.begins.length = 1 := by
  cases turn with
  | prepare hStage =>
    rw [hStage]
    rfl
  | stepped | resized | loaded =>
    obtain hAfter | hAfter := stage_redrawThen rig _ _
    all_goals
      rw [hAfter] at hHands
      cases hHands
  | _ => cases hHands

/-- Where the accepted commands are: begun, in the batch or in the queue. A worker that sleeps
over its queue is about to be told. -/
structure Delivered (earlier started : List Command) (runner : Runner ι σ) : Prop where
  in_order : started <+: earlier
  whole : runner.stage.leaving = false →
    earlier = started ++ (runner.stage.batch ++ runner.control.commands)
  owed_of_asleep : runner.stage.asleep = true → runner.control.commands ≠ [] → runner.owed ≠ 0

namespace Delivered

theorem turn (h : Delivered earlier started runner) (turn : Turn rig runner next) :
    Delivered earlier (started ++ runner.stage.begins) next where
  in_order := by
    cases hLeaving : runner.stage.leaving with
    | true =>
      rw [Stage.begins_of_leaving hLeaving, List.append_nil]
      exact h.in_order
    | false =>
      obtain ⟨rest, hBatch⟩ := runner.stage.exists_batch_eq
      rw [h.whole hLeaving, hBatch, ← List.append_assoc, ← List.append_assoc, List.append_assoc]
      exact List.prefix_append _ _
  whole := by
    intro hStays
    obtain ⟨hBefore, hCommands⟩ := turn.commands hStays
    rw [h.whole hBefore, hCommands, List.append_assoc]
  owed_of_asleep := fun hAsleep hSome => absurd (turn.commands_of_asleep hAsleep) hSome

theorem request (h : Delivered earlier started runner) (request : Request) :
    Delivered (earlier ++ (runner.control.admitted request).toList) started
      { runner with
        control := (runner.control.accept request).1
        owed := runner.owed + (runner.control.accept request).2.toNat } where
  in_order := h.in_order.trans (List.prefix_append _ _)
  whole := by
    intro hStays
    dsimp only
    rw [Control.commands_accept]
    calc earlier ++ (runner.control.admitted request).toList
        = started ++ (runner.stage.batch ++ runner.control.commands) ++
            (runner.control.admitted request).toList := by rw [← h.whole hStays]
      _ = _ := by simp only [List.append_assoc]
  owed_of_asleep := by
    intro hAsleep hSome
    dsimp only at hSome ⊢
    cases hAdmitted : runner.control.admitted request with
    | some command =>
      rw [Control.told_of_admitted hAdmitted]
      exact Nat.succ_ne_zero _
    | none =>
      rw [Control.commands_accept, hAdmitted, Option.toList_none, List.append_nil] at hSome
      have hOwed : runner.owed ≠ 0 := h.owed_of_asleep hAsleep hSome
      omega

theorem move {action : Action} (h : Delivered earlier started runner)
    (move : Move rig runner action next) :
    Delivered (earlier ++ accepted rig [action] runner) (started ++ begun rig [action] runner)
      next := by
  rw [accepted, begun, along_singleton, along_singleton]
  cases move with
  | request request =>
    rw [List.append_nil]
    exact h.request request
  | work turn =>
    rw [List.append_nil]
    exact h.turn turn
  | signal | wake =>
    rw [List.append_nil, List.append_nil]
    constructor
    · exact h.in_order
    · intro hStays
      dsimp only at hStays ⊢
      rw [Stage.leaving_notified] at hStays
      rw [Stage.batch_notified]
      exact h.whole hStays
    · intro hAsleep
      dsimp only at hAsleep
      rw [Stage.asleep_notified] at hAsleep
      cases hAsleep
  | crash =>
    rw [List.append_nil, List.append_nil]
    exact ⟨h.in_order, nofun, nofun⟩
  | cancel =>
    rw [List.append_nil, List.append_nil]
    exact ⟨h.in_order, h.whole, fun _ _ => Nat.succ_ne_zero _⟩
  | drain | collect =>
    rw [List.append_nil, List.append_nil]
    exact ⟨h.in_order, h.whole, h.owed_of_asleep⟩
  | mourn hStage =>
    rw [List.append_nil, List.append_nil]
    constructor
    · exact h.in_order
    · intro hStays
      rw [hStage] at hStays
      cases hStays
    · intro hAsleep
      rw [hStage] at hAsleep
      cases hAsleep

theorem eq_of_asleep (h : Delivered earlier started runner) (hAsleep : runner.stage.asleep = true)
    (hNone : runner.control.commands = []) : started = earlier := by
  rw [h.whole (Stage.not_leaving_of_asleep hAsleep), Stage.batch_of_asleep hAsleep, hNone]
  simp

end Delivered

theorem delivered_of_run {start : Runner ι σ} {actions : List Action}
    (hStart : Delivered [] [] start) (hRun : actAll rig actions start = some runner) :
    Delivered (accepted rig actions start) (begun rig actions start) runner := by
  refine actAll_induction_along (motive := fun soFar middle =>
    Delivered (accepted rig soFar start) (begun rig soFar start) middle) hStart ?_ hRun
  intro soFar middle action after hSoFar h move
  rw [accepted, begun, along_append _ _ hSoFar, along_append _ _ hSoFar]
  exact h.move move

end Delivery

section Promptness
variable {rig : Rig ι σ} {earlier started : List Command} {action : Action} {number : Nat}

/-- The command of some number is still to be begun, or is a program to be handed over. -/
def Awaited (number : Nat) (started : List Command) (stage : Stage) : Prop :=
  started.length ≤ number ∨ started.length = number + 1 ∧ stage.handsOver = true

theorem Awaited.before {runner next : Runner ι σ} (move : Move rig runner action next)
    (h : Awaited number (started ++ begun rig [action] runner) next.stage) :
    Awaited number started runner.stage := by
  rw [begun, along_singleton] at h
  cases move with
  | work turn =>
    obtain hFew | ⟨hOne, hHands⟩ := h
    · exact .inl (Nat.le_trans (List.prefix_append _ _).length_le hFew)
    · have hBegins : runner.stage.begins.length = 1 := turn.begins_of_handsOver hHands
      rw [List.length_append, hBegins] at hOne
      exact .inl (by omega)
  | signal | wake =>
    rw [List.append_nil, Awaited, Stage.handsOver_notified] at h
    exact h
  | crash =>
    rw [List.append_nil] at h
    obtain hFew | ⟨-, hHands⟩ := h
    · exact .inl hFew
    · cases hHands
  | request | cancel | drain | collect | mourn =>
    rw [List.append_nil] at h
    exact h

theorem actAll_request {start runner : Runner ι σ} {actions : List Action}
    (hRun : actAll rig actions start = some runner) (request : Request) :
    actAll rig (actions ++ [.request request]) start =
      some { runner with
        control := (runner.control.accept request).1
        owed := runner.owed + (runner.control.accept request).2.toNat } := by
  rw [actAll_append, hRun]
  rfl

theorem accepted_request {start runner : Runner ι σ} {actions : List Action} {request : Request}
    {command : Command} (hRun : actAll rig actions start = some runner)
    (hAdmitted : runner.control.admitted request = some command) :
    accepted rig (actions ++ [.request request]) start = accepted rig actions start ++ [command] := by
  have hNote : (runner.control.admitted request).toList = [command] := by
    rw [hAdmitted]
    rfl
  rw [accepted, along_concat _ _ hRun]
  exact congrArg _ hNote

theorem Delivered.not_chosen {runner next : Runner ι σ} (h : Delivered earlier started runner)
    (turn : Turn rig runner next) (hNumber : number < earlier.length)
    (hAwaited : Awaited number started runner.stage) : next.stage ≠ .chosen := by
  intro hChosen
  obtain ⟨hStage, hNone, -⟩ := turn.of_chosen hChosen
  rw [hStage] at hAwaited
  have hWhole := h.whole (by rw [hStage]; rfl)
  rw [hStage, hNone] at hWhole
  have hAll : earlier = started := hWhole.trans (List.append_nil _)
  obtain hFew | ⟨-, hHands⟩ := hAwaited
  · rw [hAll] at hNumber
    omega
  · cases hHands

/-- From the acceptance of a command on, until it is begun and a program handed over, only a step
is made that was decided on before. -/
theorem stepsBegun_le_of_awaited {start runner last : Runner (Traced ι) σ}
    {actions later : List Action} (hStart : Delivered [] [] start)
    (hRun : actAll rig.traced actions start = some runner)
    (hNumber : number < (accepted rig.traced actions start).length)
    (hLater : actAll rig.traced later runner = some last)
    (hAwaited : Awaited number (begun rig.traced (actions ++ later) start) last.stage) :
    last.stepsBegun ≤ runner.stepsBegun := by
  revert hAwaited
  refine actAll_induction_along (motive := fun soFar middle =>
    Awaited number (begun rig.traced (actions ++ soFar) start) middle.stage →
      middle.stepsBegun ≤ runner.stepsBegun) ?_ ?_ hLater
  · exact fun _ => Nat.le_refl _
  · intro soFar middle action after hSoFar ih move hAwaited
    have hMiddle : actAll rig.traced (actions ++ soFar) start = some middle := by
      rw [actAll_append, hRun]
      exact hSoFar
    rw [← List.append_assoc, begun, along_append _ _ hMiddle] at hAwaited
    have hBefore := hAwaited.before move
    have hMore : number < (accepted rig.traced (actions ++ soFar) start).length := by
      rw [accepted, along_append _ _ hRun, List.length_append]
      exact Nat.lt_add_right _ hNumber
    have hDelivered := delivered_of_run hStart hMiddle
    have hOther : action = .work → after.stage ≠ .chosen := by
      rintro rfl
      cases move with
      | work turn => exact hDelivered.not_chosen turn hMore hBefore
    exact Nat.le_trans (move.stepsBegun_le hOther) (ih hBefore)

theorem getElem?_accepted {start runner : Runner ι σ} {actions : List Action} {request : Request}
    {command : Command} (hRun : actAll rig actions start = some runner)
    (hAdmitted : runner.control.admitted request = some command) (later : List Action) :
    (accepted rig (actions ++ .request request :: later) start)[
      (accepted rig actions start).length]? = some command := by
  have hSplit : actions ++ .request request :: later = (actions ++ [.request request]) ++ later :=
    List.append_cons actions (.request request) later
  rw [hSplit, accepted, along_append _ later (actAll_request hRun request), ← accepted,
    accepted_request hRun hAdmitted, List.append_assoc, List.getElem?_append_right (Nat.le_refl _),
    Nat.sub_self]
  rfl

theorem stepsBegun_le_of_admitted {start runner last : Runner (Traced ι) σ}
    {actions later : List Action} {request : Request} {command : Command}
    (hStart : Delivered [] [] start) (hRun : actAll rig.traced actions start = some runner)
    (hAdmitted : runner.control.admitted request = some command)
    (hLater : actAll rig.traced (.request request :: later) runner = some last)
    (hAwaited : Awaited (accepted rig.traced actions start).length
      (begun rig.traced (actions ++ .request request :: later) start) last.stage) :
    last.stepsBegun ≤ runner.stepsBegun := by
  have hNumber : (accepted rig.traced actions start).length <
      (accepted rig.traced (actions ++ [.request request]) start).length := by
    rw [accepted_request hRun hAdmitted, List.length_append]
    exact Nat.lt_succ_self _
  have hRest : actAll rig.traced later
      { runner with
        control := (runner.control.accept request).1
        owed := runner.owed + (runner.control.accept request).2.toNat } = some last := hLater
  rw [List.append_cons] at hAwaited
  have hSteps := stepsBegun_le_of_awaited hStart (actAll_request hRun request) hNumber hRest
    hAwaited
  exact hSteps

end Promptness

section Orders
variable {ι σ : Type} {rig : Rig ι σ} {runner next : Runner ι σ}

/-- Where the worker stood in its loop when it was told to leave. -/
def dismissed (rig : Rig ι σ) : List Action → Runner ι σ → List Stage :=
  along rig fun _ stage action =>
    match action with
    | .cancel => if stage.leaving then [] else [stage]
    | _ => []

theorem Turn.live (turn : Turn rig runner next) (hStays : next.stage.leaving = false) :
    next.control.live = runner.control.live := by
  cases turn with
  | finish => cases hStays
  | start => exact runner.control.live_startLoaded
  | _ => rfl

theorem live_of_run {actions : List Action} (hLive : runner.control.live = true)
    (hRun : actAll rig actions runner = some next) (hOwn : dismissed rig actions runner = [])
    (hStays : next.stage.leaving = false) : next.control.live = true := by
  revert hOwn hStays
  refine actAll_induction_along (motive := fun soFar middle => dismissed rig soFar runner = [] →
    middle.stage.leaving = false → middle.control.live = true) ?_ ?_ hRun
  · exact fun _ _ => hLive
  · intro soFar middle action after hSoFar ih move hOwn hStays
    rw [dismissed, along_concat _ _ hSoFar, List.append_eq_nil_iff] at hOwn
    have ih := ih hOwn.1
    cases move with
    | request request => exact (middle.control.live_accept request).trans (ih hStays)
    | cancel =>
      have hLast := hOwn.2
      dsimp only at hLast hStays
      rw [hStays] at hLast
      cases hLast
    | signal | wake =>
      dsimp only at hStays ⊢
      rw [Stage.leaving_notified] at hStays
      exact ih hStays
    | work turn => exact (turn.live hStays).trans (ih (turn.commands hStays).1)
    | crash => cases hStays
    | drain | collect | mourn => exact ih hStays

end Orders

theorem delivered_create (machine : Machine ι) (screen : σ) (slots : Nat) :
    Delivered [] [] (create machine screen slots) := ⟨List.prefix_rfl, fun _ => rfl, nofun⟩

/-- Commands are begun in the order of their acceptance, each once, and none is left when the worker
goes to sleep or sleeps untold. Between the acceptance of a command and its beginning, and on until
a program is handed over, no step is made but one that the worker had decided on before. -/
theorem commands_of_run (rig : Rig ι σ) (machine : Machine ι) (screen : σ) (slots : Nat)
    (actions : List Action) (final : Runner ι σ)
    (hRun : actAll rig actions (create machine screen slots) = some final) :
    let start := create machine screen slots
    begun rig actions start <+: accepted rig actions start ∧
    (∀ after, final.act rig .work = some after → after.stage.asleep = true →
      begun rig (actions ++ [.work]) start = accepted rig (actions ++ [.work]) start) ∧
    (final.stage.asleep = true → final.owed = 0 →
      begun rig actions start = accepted rig actions start) ∧
    ∃ runner : Runner (Traced ι) σ,
      actAll rig.traced actions (create machine.traced screen slots) = some runner ∧
      runner.untraced = final ∧
      ∀ request command later last, final.control.admitted request = some command →
        actAll rig.traced (.request request :: later) runner = some last →
        let number := (accepted rig actions start).length
        let whole := actions ++ .request request :: later
        (accepted rig whole start)[number]? = some command ∧
        (Awaited number (begun rig whole start) last.stage →
          last.stepsBegun ≤ runner.stepsBegun ∧
          last.machine.calls.countP InterpreterCall.isStep ≤
            runner.machine.calls.countP InterpreterCall.isStep + runner.stage.stepAhead) := by
  intro start
  have hStart : Delivered [] [] start := delivered_create machine screen slots
  have hDelivered := delivered_of_run hStart hRun
  refine ⟨hDelivered.in_order, ?_, ?_, ?_⟩
  · intro after hAct hAsleep
    have hAfter : actAll rig (actions ++ [.work]) start = some after := by
      rw [actAll_append, hRun, Option.bind_some, actAll_singleton, hAct]
    cases move_of_act hAct with
    | work turn =>
      exact (delivered_of_run hStart hAfter).eq_of_asleep hAsleep
        (turn.commands_of_asleep hAsleep)
  · intro hAsleep hUntold
    refine hDelivered.eq_of_asleep hAsleep ?_
    by_contra hSome
    exact hDelivered.owed_of_asleep hAsleep hSome hUntold
  obtain ⟨runner, hTraced, rfl⟩ := exists_traced_of_actAll (create machine.traced screen slots) hRun
  refine ⟨runner, hTraced, rfl, ?_⟩
  intro request command later last hAdmitted hLater number whole
  refine ⟨getElem?_accepted hRun hAdmitted later, fun hAwaited => ?_⟩
  have hAccepted : accepted rig.traced actions (create machine.traced screen slots) =
      accepted rig actions start := along_traced _ rig _ _
  have hBegun : begun rig.traced whole (create machine.traced screen slots) =
      begun rig whole start := along_traced _ rig _ _
  have hSteps : last.stepsBegun ≤ runner.stepsBegun := by
    refine stepsBegun_le_of_admitted (delivered_create machine.traced screen slots) hTraced
      hAdmitted hLater ?_
    rw [hAccepted, hBegun]
    exact hAwaited
  refine ⟨hSteps, ?_⟩
  calc last.machine.calls.countP InterpreterCall.isStep
      ≤ last.stepsBegun := Nat.le_add_right _ _
    _ ≤ runner.stepsBegun := hSteps

def aboutToStep : List Action :=
  .request (.launch ⟨"first", #[0x61, 0x62]⟩) :: .replicate 8 .work

/-- A second program comes during the step, and no other step is made before it is begun. -/
theorem commands_of_secondLaunch :
    let second : Request := .launch ⟨"second", #[0x63]⟩
    let screen := Lcd.ofSize "lcd" ⟨16, 32⟩
    ∃ machine final runner last,
      Machine.create ⟨⟨16, 32⟩, 8, 1⟩ (Counted.start Player.idle) = .ok machine ∧
      actAll balkyRig aboutToStep (create machine screen 4) = some final ∧
      final.stage = .stepping ∧
      actAll balkyRig.traced aboutToStep (create machine.traced screen 4) = some runner ∧
      actAll balkyRig.traced (.request second :: .replicate 3 .work) runner = some last ∧
      last.stage = .loading ⟨"second", #[0x63]⟩ [] ∧
      (accepted balkyRig (aboutToStep ++ .request second :: .replicate 3 .work)
        (create machine screen 4))[1]? = some (.load ⟨"second", #[0x63]⟩) ∧
      last.stepsBegun ≤ runner.stepsBegun ∧
      last.machine.calls.countP InterpreterCall.isStep ≤
        runner.machine.calls.countP InterpreterCall.isStep + 1 := by
  intro second screen
  have hRun : ∃ machine,
      Machine.create ⟨⟨16, 32⟩, 8, 1⟩ (Counted.start Player.idle) = .ok machine ∧
      (actAll balkyRig aboutToStep (create machine screen 4)).map
        (fun final => (final.stage, final.control.admitted second)) =
        some (.stepping, some (.load ⟨"second", #[0x63]⟩)) ∧
      accepted balkyRig aboutToStep (create machine screen 4) =
        [.load ⟨"first", #[0x61, 0x62]⟩] ∧
      begun balkyRig (aboutToStep ++ .request second :: .replicate 3 .work)
          (create machine screen 4) =
        [.load ⟨"first", #[0x61, 0x62]⟩, .load ⟨"second", #[0x63]⟩] ∧
      (actAll balkyRig.traced (aboutToStep ++ .request second :: .replicate 3 .work)
          (create machine.traced screen 4)).map (fun last => last.stage) =
        some (.loading ⟨"second", #[0x63]⟩ []) := by
    refine ⟨_, rfl, ?_, ?_, ?_, ?_⟩
    · decide +kernel
    · decide +kernel
    · decide +kernel
    · decide +kernel
  obtain ⟨machine, hCreate, hFirst, hAccepted, hBegun, hWhole⟩ := hRun
  obtain ⟨final, hFinal, hHere⟩ := Option.map_eq_some_iff.mp hFirst
  obtain ⟨hStepping, hAdmitted⟩ := Prod.mk.inj hHere
  obtain ⟨last, hLast, hLoading⟩ := Option.map_eq_some_iff.mp hWhole
  obtain ⟨-, -, -, runner, hTraced, hSame, hPrompt⟩ :=
    commands_of_run balkyRig machine screen 4 aboutToStep final hFinal
  have hLater : actAll balkyRig.traced (.request second :: .replicate 3 .work) runner =
      some last := by
    rw [actAll_append, hTraced] at hLast
    exact hLast
  obtain ⟨hNumber, hSteps⟩ := hPrompt second _ _ last hAdmitted hLater
  rw [hAccepted] at hNumber hSteps
  obtain ⟨hSteps, hCalls⟩ := hSteps (.inr ⟨by rw [hBegun]; rfl, by rw [hLoading]; rfl⟩)
  have hStage : runner.stage = .stepping := (congrArg Runner.stage hSame).trans hStepping
  rw [hStage] at hCalls
  exact ⟨machine, final, runner, last, hCreate, hFinal, hStepping, hTraced, hLater, hLoading,
    hNumber, hSteps, hCalls⟩

end Runner
end Handheld
