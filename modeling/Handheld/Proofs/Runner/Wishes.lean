import Handheld.Proofs.Runner.Exit

/-! # What the host asked for last

Requests to launch, to resume and to pause may come while the worker loads a program or makes a
step. The last of them decides: the machine runs only if it was in favour of running, and it does
run once everything that was queued is applied.
-/
set_option autoImplicit false
namespace Handheld

def InterpreterCall.isStep : InterpreterCall → Bool
  | step _ => true
  | _ => false

namespace Stage

def leaving : Stage → Bool
  | faulting | closing | finishing | gone _ => true
  | _ => false

def applies : Stage → Bool
  | applying (_ :: _) | loading _ _ | reporting _ | starting _ | rejecting _ => true
  | _ => false

/-- There is a program that is started unless something goes wrong. -/
def WillStart : Stage → Prop
  | applying batch => ∃ program, Command.load program ∈ batch
  | loading _ _ | reporting _ | starting _ => True
  | _ => False

def stepAhead : Stage → Nat
  | chosen | stepping => 1
  | _ => 0

variable (stage : Stage)

theorem leaving_notified : stage.notified.leaving = stage.leaving := by
  cases stage
  all_goals rfl

theorem willStart_notified : stage.notified.WillStart ↔ stage.WillStart := by
  cases stage
  all_goals rfl

theorem stepAhead_notified : stage.notified.stepAhead = stage.stepAhead := by
  cases stage
  all_goals rfl

theorem stepAhead_le_one : stage.stepAhead ≤ 1 := by
  rw [stepAhead.eq_def]
  split
  all_goals simp

variable {stage}

theorem not_willStart (h : stage.applies = false) : ¬ stage.WillStart := by
  intro hStarts
  cases stage with
  | applying batch =>
    obtain ⟨program, hMember⟩ := hStarts
    cases batch with
    | nil => cases hMember
    | cons => cases h
  | loading | reporting | starting => cases h
  | _ => exact hStarts

end Stage

namespace Runner

def Action.wish? : Action → Option Bool
  | .request (.launch _) | .request .resume => some true
  | .request .pause => some false
  | _ => none

def lastWish (actions : List Action) : Option Bool := (actions.filterMap Action.wish?).getLast?

theorem lastWish_concat (actions : List Action) (action : Action) :
    lastWish (actions ++ [action]) = action.wish?.or (lastWish actions) := by
  rw [lastWish, lastWish, List.filterMap_append, List.filterMap_cons, List.filterMap_nil]
  cases action.wish? with
  | none => simp
  | some wish => simp

theorem lastWish_append_ne {actions later : List Action} (hBefore : lastWish actions ≠ some true)
    (hLater : ∀ action ∈ later, action.wish? ≠ some true) :
    lastWish (actions ++ later) ≠ some true := by
  induction later using List.reverseRecOn with
  | nil => simpa using hBefore
  | append_singleton later action ih =>
    rw [← List.append_assoc, lastWish_concat]
    have hAction : action.wish? ≠ some true := hLater action (by simp)
    have hRest : lastWish (actions ++ later) ≠ some true :=
      ih fun other hOther => hLater other (List.mem_append_left _ hOther)
    cases hWish : action.wish? with
    | none => exact hRest
    | some wish => rwa [hWish] at hAction

variable {ι σ : Type}

section Flag
variable {rig : Rig ι σ} {runner next : Runner ι σ} {actions : List Action} {action : Action}

theorem resume_accept {control : Control} (hOpen : control.state ≠ .exited) (request : Request) :
    (control.accept request).1.resumeAfterLoad =
      (Action.request request).wish?.getD control.resumeAfterLoad := by
  cases request with
  | launch program =>
    rw [Control.accept, if_neg hOpen]
    rfl
  | pause => exact Control.resume_enter _ .paused
  | resume => exact Control.resume_enter _ .running
  | resize size =>
    rw [Control.accept, if_neg hOpen]
    rfl

theorem Turn.flag (turn : Turn rig runner next) :
    next.control.resumeAfterLoad = runner.control.resumeAfterLoad ∧
      (next.control.state = .running →
        runner.control.state = .running ∨ runner.control.resumeAfterLoad = true) := by
  cases turn with
  | start hStage =>
    dsimp only
    rw [Control.startLoaded]
    split
    · rename_i hResume
      exact ⟨Control.resume_enter _ .running, fun _ => .inr hResume⟩
    · exact ⟨rfl, .inl⟩
  | finish =>
    refine ⟨rfl, ?_⟩
    intro hRunning
    cases hRunning
  | _ => exact ⟨rfl, .inl⟩

/-- The flag repeats the last wish, and the machine runs only while it is set. -/
structure Heeded (actions : List Action) (runner : Runner ι σ) : Prop where
  flag_iff : runner.control.state ≠ .exited →
    (runner.control.resumeAfterLoad = true ↔ lastWish actions = some true)
  flag_of_running : runner.control.state = .running → runner.control.resumeAfterLoad = true

theorem Heeded.request (h : Heeded actions runner) (request : Request) (owed : Nat) :
    Heeded (actions ++ [.request request])
      { runner with control := (runner.control.accept request).1, owed } := by
  have hState := runner.control.state_accept request
  by_cases hExited : runner.control.state = .exited
  · rw [if_pos hExited] at hState
    constructor
    · exact fun hOpen => absurd hState hOpen
    · intro hRunning
      cases hState.symm.trans hRunning
  · rw [if_neg hExited] at hState
    constructor
    · intro _
      dsimp only
      rw [resume_accept hExited, lastWish_concat]
      cases (Action.request request).wish? with
      | none => exact h.flag_iff hExited
      | some wish => simp
    · intro hRunning
      dsimp only
      rw [resume_accept hExited]
      have hAsked := hState.symm.trans hRunning
      cases request with
      | launch | pause => cases hAsked
      | resume => rfl
      | resize => exact h.flag_of_running hAsked

theorem Heeded.of_silent (h : Heeded actions runner) (hSilent : action.wish? = none)
    (hOpen : next.control.state ≠ .exited → runner.control.state ≠ .exited)
    (hFlag : next.control.resumeAfterLoad = runner.control.resumeAfterLoad)
    (hRunning : next.control.state = .running →
      runner.control.state = .running ∨ runner.control.resumeAfterLoad = true) :
    Heeded (actions ++ [action]) next := by
  constructor
  · intro hNext
    rw [hFlag, lastWish_concat, hSilent]
    exact h.flag_iff (hOpen hNext)
  · intro hNext
    rw [hFlag]
    obtain hBefore | hResume := hRunning hNext
    · exact h.flag_of_running hBefore
    · exact hResume

theorem Heeded.move (h : Heeded actions runner) (move : Move rig runner action next) :
    Heeded (actions ++ [action]) next := by
  have hOpen : next.control.state ≠ .exited → runner.control.state ≠ .exited :=
    mt move.exited
  cases move with
  | request request => exact h.request request _
  | work turn => exact h.of_silent rfl hOpen turn.flag.1 turn.flag.2
  | mourn => exact h.of_silent rfl hOpen rfl nofun
  | _ => exact h.of_silent rfl hOpen rfl .inl

theorem heeded_of_run {machine : Machine ι} {screen : σ} {slots : Nat}
    (hRun : actAll rig actions (create machine screen slots) = some runner) :
    Heeded actions runner := by
  have hStart : Heeded [] (create machine screen slots) := ⟨fun _ => ⟨nofun, nofun⟩, nofun⟩
  refine actAll_induction (motive := Heeded) hStart ?_ hRun
  intro _ _ _ _ h move
  exact h.move move

end Flag

section Decision
variable {rig : Rig ι σ} {runner next : Runner ι σ}

theorem Turn.of_chosen (turn : Turn rig runner next) (hChosen : next.stage = .chosen) :
    runner.stage = .fetching ∧ runner.control.commands = [] ∧ runner.control.state = .running := by
  cases turn with
  | choose hStage _ hNone hState => exact ⟨hStage, hNone, hState⟩
  | stepped | resized | loaded =>
    obtain hStage | hStage := stage_redrawThen rig _ _
    all_goals cases hStage.symm.trans hChosen
  | _ => cases hChosen

theorem Turn.stepAhead_le (turn : Turn rig runner next) (hOther : next.stage ≠ .chosen) :
    next.stage.stepAhead ≤ runner.stage.stepAhead ∧
      (runner.stage = .stepping → next.stage.stepAhead = 0) := by
  cases turn with
  | choose => exact absurd rfl hOther
  | begin hStage =>
    rw [hStage]
    exact ⟨Nat.le_refl _, nofun⟩
  | stepped | resized | loaded =>
    obtain hStage | hStage := stage_redrawThen rig _ _
    all_goals
      rw [hStage]
      exact ⟨Nat.zero_le _, fun _ => rfl⟩
  | _ => exact ⟨Nat.zero_le _, fun _ => rfl⟩

end Decision

section Pause
variable {rig : Rig ι σ} {runner next : Runner (Traced ι) σ} {actions : List Action}
  {action : Action}

/-- The steps that were made, with one that the worker has decided on. -/
def stepsBegun (runner : Runner (Traced ι) σ) : Nat :=
  runner.machine.calls.countP InterpreterCall.isStep + runner.stage.stepAhead

theorem Turn.call (turn : Turn rig.traced runner next) :
    next.machine.calls = runner.machine.calls ∨
      ∃ call, next.machine.calls = call :: runner.machine.calls ∧
        (call.isStep = true → runner.stage = .stepping) := by
  cases turn with
  | stepped hStage | stumbled hStage =>
    obtain hSame | ⟨outcome, hCalls⟩ := runner.machine.calls_step rig.interpreter
    · exact .inl hSame
    · exact .inr ⟨_, hCalls, fun _ => hStage⟩
  | prepare hStage =>
    have hCalls := runner.machine.calls_prepare rig.interpreter
    split at hCalls
    · exact .inl hCalls
    · exact .inr ⟨_, hCalls, nofun⟩
  | resized => exact .inl (congrArg Traced.calls (runner.machine.interp_setScreen _))
  | misfit => exact .inl (congrArg Traced.calls (runner.machine.interp_setScreen _))
  | @loaded program | @refused program =>
    obtain ⟨outcome, hCalls, -⟩ := runner.machine.takeOver_traced rig.interpreter program
    exact .inr ⟨_, hCalls, nofun⟩
  | dispose => exact .inr ⟨.dispose, rfl, nofun⟩
  | _ => exact .inl rfl

theorem Turn.stepsBegun_le (turn : Turn rig.traced runner next)
    (hOther : next.stage ≠ .chosen) : next.stepsBegun ≤ runner.stepsBegun := by
  obtain ⟨hAhead, hStepping⟩ := turn.stepAhead_le hOther
  obtain hSame | ⟨call, hCalls, hStep⟩ := turn.call
  · rw [stepsBegun, stepsBegun, hSame]
    exact Nat.add_le_add_left hAhead _
  · rw [stepsBegun, stepsBegun, hCalls, List.countP_cons]
    split
    · rename_i hIsStep
      have hStage : runner.stage = .stepping := hStep hIsStep
      rw [hStepping hStage, hStage]
      exact Nat.le_refl _
    · exact Nat.add_le_add_left hAhead _

theorem Move.stepsBegun_le (move : Move rig.traced runner action next)
    (hOther : action = .work → next.stage ≠ .chosen) : next.stepsBegun ≤ runner.stepsBegun := by
  cases move with
  | work turn => exact turn.stepsBegun_le (hOther rfl)
  | signal | wake =>
    exact Nat.add_le_add_left (Nat.le_of_eq runner.stage.stepAhead_notified) _
  | crash => exact Nat.add_le_add_left (Nat.zero_le _) _
  | _ => exact Nat.le_refl _

theorem Heeded.lastWish_of_running (h : Heeded actions runner)
    (hRunning : runner.control.state = .running) : lastWish actions = some true := by
  have hOpen : runner.control.state ≠ .exited := by
    rw [hRunning]
    exact nofun
  exact (h.flag_iff hOpen).mp (h.flag_of_running hRunning)

theorem Heeded.quiet (h : Heeded actions runner) (hLast : lastWish actions ≠ some true)
    {later : List Action} (hQuiet : ∀ action ∈ later, action.wish? ≠ some true)
    (hRun : actAll rig.traced later runner = some next) :
    next.control.state ≠ .running ∧ next.stepsBegun ≤ runner.stepsBegun := by
  -- over the later actions: while the flag is heeded the machine idles, so no turn begins a step
  have hAll : (∀ action ∈ later, action.wish? ≠ some true) →
      Heeded (actions ++ later) next ∧ next.stepsBegun ≤ runner.stepsBegun := by
    refine actAll_induction (motive := fun soFar middle =>
      (∀ action ∈ soFar, action.wish? ≠ some true) →
        Heeded (actions ++ soFar) middle ∧ middle.stepsBegun ≤ runner.stepsBegun) ?_ ?_ hRun
    · intro _
      rw [List.append_nil]
      exact ⟨h, Nat.le_refl _⟩
    · intro soFar middle action after ih move hQuiet
      have hSoFar : ∀ action ∈ soFar, action.wish? ≠ some true :=
        fun other hOther => hQuiet other (List.mem_append_left _ hOther)
      obtain ⟨hMiddle, hSteps⟩ := ih hSoFar
      have hIdle : middle.control.state ≠ .running :=
        fun hRunning => lastWish_append_ne hLast hSoFar (hMiddle.lastWish_of_running hRunning)
      have hOther : action = .work → after.stage ≠ .chosen := by
        rintro rfl hChosen
        cases move with
        | work turn => exact hIdle (turn.of_chosen hChosen).2.2
      rw [← List.append_assoc]
      exact ⟨hMiddle.move move, Nat.le_trans (move.stepsBegun_le hOther) hSteps⟩
  obtain ⟨hNext, hSteps⟩ := hAll hQuiet
  exact ⟨fun hRunning => lastWish_append_ne hLast hQuiet (hNext.lastWish_of_running hRunning),
    hSteps⟩

end Pause

section Served
variable {rig : Rig ι σ} {runner next : Runner (Traced ι) σ} {actions : List Action}
  {action : Action}

/-- As long as no load fails, a machine that should run and does not has a program to start. -/
def Served (runner : Runner (Traced ι) σ) : Prop :=
  .load .failed ∉ runner.machine.calls → runner.stage.leaving = false →
    runner.control.resumeAfterLoad = true →
      runner.control.state = .running ∨
        (∃ program, .load program ∈ runner.control.commands) ∨ runner.stage.WillStart

theorem Departed.not_exited_of_staying (h : Departed actions runner)
    (hStays : runner.stage.leaving = false) : runner.control.state ≠ .exited := by
  apply h.not_exited
  intro crashed hGone
  rw [hGone] at hStays
  cases hStays

theorem Served.request (h : Served runner) (hDeparted : Departed actions runner)
    (request : Request) (owed : Nat) :
    Served { runner with control := (runner.control.accept request).1, owed } := by
  intro hLoaded hStays hFlag
  have hOpen : runner.control.state ≠ .exited := hDeparted.not_exited_of_staying hStays
  have hState := runner.control.state_accept request
  rw [if_neg hOpen] at hState
  dsimp only at hFlag ⊢
  rw [resume_accept hOpen] at hFlag
  cases request with
  | launch program =>
    refine .inr (.inl ⟨program, ?_⟩)
    rw [Control.accept, if_neg hOpen]
    exact List.mem_append_right _ List.mem_cons_self
  | pause => cases hFlag
  | resume => exact .inl hState
  | resize size =>
    rw [Control.accept, if_neg hOpen]
    obtain hRunning | ⟨program, hQueued⟩ | hStarts := h hLoaded hStays hFlag
    · exact .inl hRunning
    · exact .inr (.inl ⟨program, List.mem_append_left _ hQueued⟩)
    · exact .inr (.inr hStarts)

theorem Served.turn (h : Served runner) (hDeparted : Departed actions runner)
    (turn : Turn rig.traced runner next) : Served next := by
  intro hLoaded hStays hFlag
  have hBefore : .load .failed ∉ runner.machine.calls := by
    obtain hSame | ⟨call, hCalls, -⟩ := turn.call
    · rwa [hSame] at hLoaded
    · rw [hCalls] at hLoaded
      exact fun hMember => hLoaded (List.mem_cons_of_mem _ hMember)
  rw [turn.flag.1] at hFlag
  have hOwed := fun hHere => h hBefore hHere hFlag
  -- what the machine owes is queued, then taken, then under way, and at last it runs
  cases turn with
  | leave | quit | stumbled | misfit | fault | dispose | finish => cases hStays
  | prepare | report => exact .inr (.inr trivial)
  | choose hStage | wait hStage | begin hStage | idle hStage | look hStage | rest hStage
  | reject hStage =>
    rw [hStage] at hOwed
    obtain hRunning | hQueued | hStarts := hOwed rfl
    · exact .inl hRunning
    · exact .inr (.inl hQueued)
    · cases hStarts
  | take hStage =>
    rw [hStage] at hOwed
    obtain hRunning | hQueued | hStarts := hOwed rfl
    · exact .inl hRunning
    · exact .inr (.inr hQueued)
    · cases hStarts
  | applied hStage =>
    rw [hStage] at hOwed
    obtain hRunning | hQueued | ⟨_, hMember⟩ := hOwed rfl
    · exact .inl hRunning
    · exact .inr (.inl hQueued)
    · cases hMember
  | stepped hStage =>
    rw [hStage] at hOwed
    obtain hRunning | hQueued | hStarts := hOwed rfl
    · exact .inl hRunning
    · exact .inr (.inl hQueued)
    · cases hStarts
  | resized hStage =>
    obtain hAfter | hAfter := stage_redrawThen rig.traced (.applying _) _
    · rw [hStage] at hOwed
      obtain hRunning | hQueued | ⟨program, hMember⟩ := hOwed rfl
      · exact .inl hRunning
      · exact .inr (.inl hQueued)
      · refine .inr (.inr ?_)
        rw [hAfter]
        cases hMember with
        | tail _ hRest => exact ⟨program, hRest⟩
    · rw [hAfter] at hStays
      cases hStays
  | @loaded program batch =>
    obtain hAfter | hAfter := stage_redrawThen rig.traced (.reporting batch) _
    · refine .inr (.inr ?_)
      rw [hAfter]
      trivial
    · rw [hAfter] at hStays
      cases hStays
  | @refused program _ _ hFault =>
    obtain ⟨outcome, hCalls, hFailed, -⟩ :=
      runner.machine.takeOver_traced rig.interpreter program
    rw [hFailed.mpr hFault] at hCalls
    refine absurd ?_ hLoaded
    dsimp only [Rig.traced]
    rw [hCalls]
    exact List.mem_cons_self
  | start hStage =>
    have hOpen : runner.control.state ≠ .exited :=
      hDeparted.not_exited_of_staying (by rw [hStage]; rfl)
    exact .inl ((Control.state_startLoaded hOpen).trans (if_pos hFlag))

theorem Served.move (h : Served runner) (hDeparted : Departed actions runner)
    (move : Move rig.traced runner action next) : Served next := by
  cases move with
  | request request => exact h.request hDeparted request _
  | work turn => exact h.turn hDeparted turn
  | signal | wake =>
    intro hLoaded hStays hFlag
    dsimp only at hStays ⊢
    rw [Stage.leaving_notified] at hStays
    rw [Stage.willStart_notified]
    exact h hLoaded hStays hFlag
  | crash => exact nofun
  | mourn hStage =>
    intro _ hStays
    rw [hStage] at hStays
    cases hStays
  | cancel | drain | collect => exact h

theorem served_of_run {machine : Machine (Traced ι)} {screen : σ} {slots : Nat}
    (hRun : actAll rig.traced actions (create machine screen slots) = some runner) :
    Served runner := by
  have hStart : Departed [] (create machine screen slots) ∧ Served (create machine screen slots) :=
    ⟨⟨nofun, nofun, nofun⟩, fun _ _ => nofun⟩
  refine (actAll_induction (motive := fun soFar middle => Departed soFar middle ∧ Served middle)
    hStart ?_ hRun).2
  rintro _ _ _ _ ⟨hDeparted, h⟩ move
  exact ⟨hDeparted.move move, h.move hDeparted move⟩

end Served

/-- The last request about running wins. The machine runs only if that request was to launch or to
resume, and after a pause no step is made but the one that was already begun. If no load has
failed, the machine does run once all commands are applied. -/
theorem state_of_wishes (rig : Rig ι σ) (machine : Machine ι) (screen : σ) (slots : Nat)
    (actions : List Action) (final : Runner ι σ)
    (hRun : actAll rig actions (create machine screen slots) = some final) :
    (final.control.state = .running → lastWish actions = some true) ∧
    ∃ runner : Runner (Traced ι) σ,
      actAll rig.traced actions (create machine.traced screen slots) = some runner ∧
      runner.untraced = final ∧
      (∀ later last, (∀ action ∈ later, action.wish? ≠ some true) →
        actAll rig.traced (.request .pause :: later) runner = some last →
          last.control.state ≠ .running ∧
          last.machine.calls.countP InterpreterCall.isStep ≤
            runner.machine.calls.countP InterpreterCall.isStep + 1 ∧
          last.stepsBegun ≤ runner.stepsBegun) ∧
      (.load .failed ∉ runner.machine.calls → final.stage.leaving = false →
        final.control.commands = [] → final.stage.applies = false →
          (final.control.state = .running ↔ lastWish actions = some true) ∧
          (lastWish actions ≠ some true → final.control.state = .paused)) := by
  obtain ⟨runner, hTraced, rfl⟩ := exists_traced_of_actAll (create machine.traced screen slots) hRun
  have hHeeded : Heeded actions runner := heeded_of_run hTraced
  refine ⟨hHeeded.lastWish_of_running, runner, hTraced, rfl, ?_, ?_⟩
  · intro later last hQuiet hLater
    have hPaused : lastWish (actions ++ [.request .pause]) ≠ some true := by
      rw [lastWish_concat]
      exact nofun
    have hAll : actAll rig.traced later _ = some last := hLater
    obtain ⟨hIdle, hSteps⟩ := (hHeeded.request .pause _).quiet hPaused hQuiet hAll
    refine ⟨hIdle, ?_, hSteps⟩
    calc last.machine.calls.countP InterpreterCall.isStep
        ≤ last.stepsBegun := Nat.le_add_right _ _
      _ ≤ runner.stepsBegun := hSteps
      _ ≤ runner.machine.calls.countP InterpreterCall.isStep + 1 :=
        Nat.add_le_add_left runner.stage.stepAhead_le_one _
  · intro hLoaded hStays hEmpty hApplied
    have hOpen : runner.control.state ≠ .exited :=
      (departed_of_run hTraced).not_exited_of_staying hStays
    have hRunning : runner.control.state = .running ↔ lastWish actions = some true := by
      constructor
      · exact hHeeded.lastWish_of_running
      · intro hLast
        have hFlag := (hHeeded.flag_iff hOpen).mpr hLast
        obtain hRunning | ⟨program, hQueued⟩ | hStarts :=
          served_of_run hTraced hLoaded hStays hFlag
        · exact hRunning
        · have hNone : runner.control.commands = [] := hEmpty
          rw [hNone] at hQueued
          cases hQueued
        · exact absurd hStarts (Stage.not_willStart hApplied)
    refine ⟨hRunning, ?_⟩
    intro hLast
    dsimp only [untraced]
    cases hState : runner.control.state with
    | paused => rfl
    | running => exact absurd (hRunning.mp hState) hLast
    | exited => exact absurd hState hOpen

def launched : List Action :=
  [.request (.launch ⟨"first", #[0x61, 0x62]⟩), .work, .work]

/-- A pause comes while the program is loaded, and the worker goes on until it sleeps. -/
theorem state_of_pausedLoad :
    ∃ machine final runner last,
      Machine.create ⟨⟨16, 32⟩, 8, 1⟩ (Counted.start Player.idle) = .ok machine ∧
      actAll balkyRig launched (create machine (Lcd.ofSize "lcd" ⟨16, 32⟩) 4) = some final ∧
      final.stage = .loading ⟨"first", #[0x61, 0x62]⟩ [] ∧
      actAll balkyRig.traced launched (create machine.traced (Lcd.ofSize "lcd" ⟨16, 32⟩) 4) =
        some runner ∧
      actAll balkyRig.traced (.request .pause :: .replicate 5 .work) runner = some last ∧
      last.stage = .waiting ∧ last.machine.calls = [.load .unfinished] ∧
      last.stepsBegun ≤ runner.stepsBegun ∧ last.control.state = .paused := by
  have hRun : ∃ machine,
      Machine.create ⟨⟨16, 32⟩, 8, 1⟩ (Counted.start Player.idle) = .ok machine ∧
      (actAll balkyRig launched (create machine (Lcd.ofSize "lcd" ⟨16, 32⟩) 4)).map
          (fun final => final.stage) = some (.loading ⟨"first", #[0x61, 0x62]⟩ []) ∧
      (actAll balkyRig.traced (launched ++ .request .pause :: .replicate 5 .work)
          (create machine.traced (Lcd.ofSize "lcd" ⟨16, 32⟩) 4)).map
        (fun last => (last.stage, last.machine.calls, last.control.commands)) =
        some (.waiting, [.load .unfinished], []) := by
    refine ⟨_, rfl, ?_, ?_⟩
    · decide +kernel
    · decide +kernel
  obtain ⟨machine, hCreate, hLaunched, hPaused⟩ := hRun
  obtain ⟨final, hFinal, hLoading⟩ := Option.map_eq_some_iff.mp hLaunched
  obtain ⟨last, hLast, hEnd⟩ := Option.map_eq_some_iff.mp hPaused
  obtain ⟨hStage, hRest⟩ := Prod.mk.inj hEnd
  obtain ⟨hCalls, hEmpty⟩ := Prod.mk.inj hRest
  obtain ⟨-, runner, hTraced, -, hQuiet, -⟩ :=
    state_of_wishes balkyRig machine _ 4 launched final hFinal
  have hLater : actAll balkyRig.traced (.request .pause :: .replicate 5 .work) runner =
      some last := by
    rw [actAll_append, hTraced] at hLast
    exact hLast
  obtain ⟨-, -, hSteps⟩ := hQuiet (.replicate 5 .work) last (by decide) hLater
  have hAll : actAll balkyRig (launched ++ .request .pause :: .replicate 5 .work)
      (create machine (Lcd.ofSize "lcd" ⟨16, 32⟩) 4) = some last.untraced :=
    untraced_of_actAll hLast
  obtain ⟨-, whole, hWhole, -, -, hServed⟩ := state_of_wishes balkyRig machine _ 4 _ _ hAll
  rw [hLast, Option.some_inj] at hWhole
  subst hWhole
  have hLoaded : .load .failed ∉ last.machine.calls := by
    rw [hCalls]
    decide
  have hStaying : last.stage.leaving = false := congrArg Stage.leaving hStage
  have hApplied : last.stage.applies = false := congrArg Stage.applies hStage
  obtain ⟨-, hPause⟩ := hServed hLoaded hStaying hEmpty hApplied
  exact ⟨machine, final, runner, last, hCreate, hFinal, hLoading, hTraced, hLater, hStage, hCalls,
    hSteps, hPause (by decide)⟩

end Runner
end Handheld
