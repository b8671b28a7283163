import Handheld.Proofs.Runner.Commands
import Handheld.Proofs.Runner.Synced

/-! # The display at rest

Before the worker rests it has drawn what loads, steps and new screens did to the console, with one
exception. A program that is refused finds the console already cleared, and nobody asks for that to
be drawn: until another program is taken over or the screen is set, the display shows what it showed
when the refused program came.
-/
set_option autoImplicit false
namespace Handheld
namespace Runner
open Machine
variable {ι σ : Type}

inductive Ending
  | drawn
  | refused
  deriving DecidableEq

def endingAt (action : Action) (stage : Stage) : List Ending :=
  match action, stage with
  | .work, .rejecting _ => [.refused]
  | .work, .reporting _ | .work, .applying (.resize _ :: _) => [.drawn]
  | _, _ => []

/-- How the commands ended, in the order of their endings. -/
def endings (rig : Rig ι σ) : List Action → Runner ι σ → List Ending :=
  along rig fun _ stage action => endingAt action stage

def LastRefused (rig : Rig ι σ) (actions : List Action) (start : Runner ι σ) : Prop :=
  (endings rig actions start).getLast? = some .refused

section Endings
variable {rig : Rig ι σ} {start runner : Runner ι σ} {actions : List Action} {action : Action}

theorem lastRefused_concat (hRun : actAll rig actions start = some runner)
    (hSilent : endingAt action runner.stage = []) :
    LastRefused rig (actions ++ [action]) start ↔ LastRefused rig actions start := by
  rw [LastRefused, endings, along_concat _ _ hRun, hSilent, List.append_nil]
  exact Iff.rfl

theorem lastRefused_concat_iff (ending : Ending) (hRun : actAll rig actions start = some runner)
    (hEnding : endingAt action runner.stage = [ending]) :
    LastRefused rig (actions ++ [action]) start ↔ ending = .refused := by
  rw [LastRefused, endings, along_concat _ _ hRun, hEnding, List.getLast?_concat, Option.some_inj]

end Endings

theorem exists_request_of_accepted {rig : Rig ι σ} {actions : List Action} {start : Runner ι σ}
    {command : Command} (h : command ∈ accepted rig actions start) :
    ∃ request, .request request ∈ actions ∧ request.command? = some command := by
  induction actions generalizing start with
  | nil => cases h
  | cons action rest ih =>
    rw [accepted, along, List.mem_append] at h
    obtain hNow | hLater := h
    · cases action with
      | request request =>
        refine ⟨request, .head _, ?_⟩
        have hAdmitted : start.control.admitted request = some command :=
          Option.mem_toList.mp hNow
        rw [Control.admitted] at hAdmitted
        split at hAdmitted
        · cases hAdmitted
        · exact hAdmitted
      | _ => cases hNow
    · cases hNext : start.act rig action with
      | none =>
        rw [hNext] at hLater
        cases hLater
      | some next =>
        rw [hNext] at hLater
        obtain ⟨request, hMember, hCommand⟩ := ih hLater
        exact ⟨request, .tail _ hMember, hCommand⟩

theorem request_of_resizing {rig : Rig ι σ} {machine : Machine ι} {screen : σ} {slots : Nat}
    {actions : List Action} {runner : Runner ι σ} {size : PixelSize} {rest : List Command}
    (hRun : actAll rig actions (create machine screen slots) = some runner)
    (hStage : runner.stage = .applying (.resize size :: rest)) :
    .request (.resize size) ∈ actions := by
  have hWhole := (delivered_of_run (delivered_create machine screen slots) hRun).whole
    (by rw [hStage]; rfl)
  have hMember : .resize size ∈ accepted rig actions (create machine screen slots) := by
    rw [hWhole, hStage]
    simp [Stage.batch]
  obtain ⟨request, hRequest, hCommand⟩ := exists_request_of_accepted hMember
  cases request with
  | resize other =>
    cases hCommand
    exact hRequest
  | _ => cases hCommand

/-- The machine is as it was prepared for a program that was then refused. -/
structure Blank (geometry : Geometry) (machine : Machine Player) : Prop where
  formed : WellFormed geometry machine
  ended : machine.isEnd = true
  settled : machine.work.console.pending = RefreshMask.nothing
  zero : ∀ value ∈ machine.work.console.grid.cells, value = 0

theorem blank_prepare {geometry : Geometry} {machine : Machine Player}
    (h : WellFormed geometry machine) : Blank geometry (machine.prepare Player.interpreter) := by
  obtain ⟨hPending, hZero⟩ := Console.setScreen_blank machine.work.clearAll.console
    machine.work.clearAll.console.size
  have hConsole := congrArg Workspace.console (work_prepare Player.interpreter machine)
  constructor
  · exact h.prepare
  · rw [isEnd, phase_prepare]
    rfl
  · rw [hConsole]
    exact hPending
  · rw [hConsole]
    exact hZero

section Way
variable {rig : Rig ι Lcd} {player : ι → Player} {start runner next before : Runner ι Lcd}
  {geometry : Geometry} {actions : List Action} {action : Action} {machine : Machine ι}
  {screen : Lcd} {stage : Stage}

/-- The screen is that of a moment at which display and console agreed and a program was about to
be loaded. Every program that was tried since was refused. -/
structure Left (rig : Rig ι Lcd) (player : ι → Player) (geometry : Geometry)
    (start before : Runner ι Lcd) (actions : List Action) (screen : Lcd) : Prop where
  reached : ∃ earlier later, actions = earlier ++ later ∧
    actAll rig earlier start = some before ∧
    ∀ ending ∈ endings rig later before, ending = .refused
  loading : ∃ program rest, before.stage = .applying (.load program :: rest)
  synced : Synced geometry (before.machine.played player) before.screen
  screen_eq : screen = before.screen

theorem Left.concat (h : Left rig player geometry start before actions screen)
    (hRun : actAll rig actions start = some runner)
    (hEndings : ∀ ending ∈ endingAt action runner.stage, ending = .refused) :
    Left rig player geometry start before (actions ++ [action]) screen := by
  obtain ⟨⟨earlier, later, rfl, hEarlier, hRefused⟩, hLoading, hSynced, hScreen⟩ := h
  refine ⟨⟨earlier, later ++ [action], List.append_assoc .., hEarlier, ?_⟩, hLoading, hSynced,
    hScreen⟩
  have hLater : actAll rig later before = some runner := by
    rw [actAll_append, hEarlier] at hRun
    exact hRun
  intro ending hEnding
  rw [endings, along_concat _ _ hLater, List.mem_append] at hEnding
  exact hEnding.elim (hRefused ending) (hEndings ending)

theorem left_of_synced (h : Synced geometry (runner.machine.played player) runner.screen)
    (hRun : actAll rig actions start = some runner) {program : Program} {rest : List Command}
    (hStage : runner.stage = .applying (.load program :: rest)) :
    Left rig player geometry start runner (actions ++ [.work]) runner.screen where
  reached := by
    refine ⟨actions, [.work], rfl, hRun, ?_⟩
    rw [endings, along_singleton, hStage]
    exact nofun
  loading := ⟨program, rest, hStage⟩
  synced := h
  screen_eq := rfl

section Standings
variable (rig player start actions machine screen)

def Fresh : Prop := ∃ geometry, Synced geometry (machine.played player) screen

def Stale : Prop :=
  ∃ geometry before, Blank geometry (machine.played player) ∧
    Left rig player geometry start before actions screen

def Prepared : Prop :=
  ∃ geometry before idle, WellFormed geometry idle ∧
    machine.played player = idle.prepare Player.interpreter ∧
    Left rig player geometry start before actions screen

/-- How console and display stand to each other where the worker is. -/
def Kept : Stage → Prop
  | .loading _ _ => Prepared rig player start actions machine screen
  | .rejecting _ => Stale rig player start actions machine screen
  | .reporting _ => Fresh player machine screen
  | .stepping => ¬ LastRefused rig actions start ∧ Fresh player machine screen
  | .faulting | .closing | .finishing | .gone _ => True
  | _ => (LastRefused rig actions start → Stale rig player start actions machine screen) ∧
    (¬ LastRefused rig actions start → Fresh player machine screen)

end Standings

theorem Stale.concat (h : Stale rig player start actions machine screen) (action : Action)
    (hRun : actAll rig actions start = some runner)
    (hEndings : ∀ ending ∈ endingAt action runner.stage, ending = .refused) :
    Stale rig player start (actions ++ [action]) machine screen := by
  obtain ⟨geometry, before, hBlank, hLeft⟩ := h
  exact ⟨geometry, before, hBlank, hLeft.concat hRun hEndings⟩

theorem Kept.still (h : Kept rig player start actions machine screen stage) (action : Action)
    (hRun : actAll rig actions start = some runner)
    (hSilent : endingAt action runner.stage = []) :
    Kept rig player start (actions ++ [action]) machine screen stage := by
  have hNone : ∀ ending ∈ endingAt action runner.stage, ending = .refused := by
    rw [hSilent]
    exact nofun
  have hLast := lastRefused_concat hRun hSilent
  cases stage with
  | loading =>
    obtain ⟨geometry, before, idle, hIdle, hPlayed, hLeft⟩ := h
    exact ⟨geometry, before, idle, hIdle, hPlayed, hLeft.concat hRun hNone⟩
  | rejecting => exact h.concat action hRun hNone
  | reporting => exact h
  | stepping => exact ⟨fun hAfter => h.1 (hLast.mp hAfter), h.2⟩
  | faulting | closing | finishing | gone => trivial
  | fetching | waiting | chosen | idling | resting | applying | starting =>
    exact ⟨fun hAfter => (h.1 (hLast.mp hAfter)).concat action hRun hNone,
      fun hAfter => h.2 fun hBefore => hAfter (hLast.mpr hBefore)⟩

theorem Kept.silent (h : Kept rig player start actions runner.machine runner.screen runner.stage)
    (hRun : actAll rig actions start = some runner) (hStage : runner.stage = stage)
    (hSilent : endingAt .work stage = []) :
    Kept rig player start (actions ++ [.work]) runner.machine runner.screen stage := by
  subst hStage
  exact h.still .work hRun hSilent

theorem Kept.notified (h : Kept rig player start actions machine screen stage) :
    Kept rig player start actions machine screen stage.notified := by
  cases stage
  all_goals exact h

theorem Fresh.step (hPlays : rig.interpreter.PlaysText player)
    (hSurface : rig.surface = Lcd.surface) (h : Fresh player runner.machine runner.screen)
    (hFault : (runner.machine.step rig.interpreter).fault = none) (stage : Stage) :
    ∃ after screen,
      { runner with
        machine := (runner.machine.step rig.interpreter).state
        steps := runner.steps + 1 }.redrawThen rig stage =
          { runner with machine := after, screen, steps := runner.steps + 1, stage } ∧
        Fresh player after screen := by
  obtain ⟨geometry, hFormed, hHeight, hSettled, hShows⟩ := h
  have hStep : ((runner.machine.step rig.interpreter).state.played player) =
      ((runner.machine.played player).step Player.interpreter).state :=
    congrArg Attempt.state (played_step hPlays hFault)
  have hStepped := (step_spec hFormed).1
  have hCovers := covers_step hFormed hSettled
  rw [← hStep] at hStepped hCovers
  obtain ⟨screen, hRedraw, hSynced⟩ := @synced_redrawThen _ rig player geometry
    { runner with
      machine := (runner.machine.step rig.interpreter).state
      steps := runner.steps + 1 }
    hSurface hStepped hHeight _ hShows hFormed.size_eq hCovers stage
  exact ⟨_, screen, hRedraw, geometry, hSynced⟩

theorem Kept.prepare (hPlays : rig.interpreter.PlaysText player)
    (h : Kept rig player start actions runner.machine runner.screen runner.stage)
    (hRun : actAll rig actions start = some runner) {program : Program} {rest : List Command}
    (hStage : runner.stage = .applying (.load program :: rest)) :
    Prepared rig player start (actions ++ [.work]) (runner.machine.prepare rig.interpreter)
      runner.screen := by
  have hPrepared := played_prepare hPlays runner.machine
  obtain ⟨hStale, hFresh⟩ := h.silent hRun hStage rfl
  by_cases hLast : LastRefused rig (actions ++ [.work]) start
  · obtain ⟨geometry, before, hBlank, hLeft⟩ := hStale hLast
    exact ⟨geometry, before, _, hBlank.formed, hPrepared, hLeft⟩
  · obtain ⟨geometry, hSynced⟩ := hFresh hLast
    exact ⟨geometry, runner, _, hSynced.formed, hPrepared, left_of_synced hSynced hRun hStage⟩

theorem Prepared.takeOver (hPlays : rig.interpreter.PlaysText player)
    (hSurface : rig.surface = Lcd.surface)
    (h : Prepared rig player start actions runner.machine runner.screen) {program : Program}
    (hFault : (runner.machine.takeOver rig.interpreter program).fault = none) (stage : Stage) :
    ∃ after screen,
      { runner with
        machine := (runner.machine.takeOver rig.interpreter program).state.onConsole
          fun console => console.requestRefresh RefreshMask.everything
        }.redrawThen rig stage = { runner with machine := after, screen, stage } ∧
        Fresh player after screen := by
  obtain ⟨geometry, before, idle, hIdle, hPlayed, hLeft⟩ := h
  have hTaken : (runner.machine.takeOver rig.interpreter program).state.played player =
      (idle.load Player.interpreter program).state := by
    obtain ⟨e, hRefused⟩ | hTaken := takeOver_cases hPlays program runner.machine
    · have hSome : (runner.machine.takeOver rig.interpreter program).fault = some e :=
        congrArg Attempt.fault hRefused
      cases hFault.symm.trans hSome
    · rw [hPlayed] at hTaken
      exact congrArg Attempt.state hTaken
  obtain ⟨hLoaded, -, hConsole⟩ := load_spec hIdle program
  have hBlank := Console.setScreen_blank idle.work.clearAll.console idle.work.clearAll.console.size
  rw [← hConsole] at hBlank
  rw [← hTaken] at hLoaded hBlank
  obtain ⟨screen, hRedraw, hSynced⟩ := @synced_of_everything _ rig player geometry
    { runner with machine := (runner.machine.takeOver rig.interpreter program).state }
    hSurface hLoaded hLeft.synced.height_lt hBlank.1 _
    (hLeft.screen_eq ▸ hLeft.synced.shows) hLeft.synced.formed.size_eq stage
  exact ⟨_, screen, hRedraw, geometry, hSynced⟩

theorem Prepared.refused (hPlays : rig.interpreter.PlaysText player)
    (h : Prepared rig player start actions machine screen) {program : Program}
    (hFault : (machine.takeOver rig.interpreter program).fault ≠ none) :
    Stale rig player start actions (machine.takeOver rig.interpreter program).state screen := by
  obtain ⟨geometry, before, idle, hIdle, hPlayed, hLeft⟩ := h
  have hSame : (machine.takeOver rig.interpreter program).state.played player =
      idle.prepare Player.interpreter := by
    obtain ⟨e, hRefused⟩ | hTaken := takeOver_cases hPlays program machine
    · exact (congrArg Attempt.state hRefused).trans hPlayed
    · rw [hPlayed] at hTaken
      exact absurd ((congrArg Attempt.fault hTaken).trans (load_spec hIdle program).2.1) hFault
  exact ⟨geometry, before, hSame ▸ blank_prepare hIdle, hLeft⟩

theorem Kept.resize (hSurface : rig.surface = Lcd.surface)
    (h : Kept rig player start actions runner.machine runner.screen runner.stage)
    {size : PixelSize} (hSize : size.InRange) {rest : List Command}
    (hStage : runner.stage = .applying (.resize size :: rest))
    (hFault : (runner.machine.setScreen size).fault = none) (stage : Stage) :
    ∃ after screen,
      { runner with
        machine := (runner.machine.setScreen size).state.onConsole
          fun console => console.requestRefresh RefreshMask.everything
        screen := rig.surface.resize size runner.screen
        }.redrawThen rig stage = { runner with machine := after, screen, stage } ∧
        Fresh player after screen := by
  obtain ⟨geometry, hFormed, hFree⟩ : ∃ geometry,
      WellFormed geometry (runner.machine.played player) ∧ runner.screen.locked = false := by
    rw [hStage] at h
    obtain ⟨hStale, hFresh⟩ := h
    by_cases hLast : LastRefused rig actions start
    · obtain ⟨geometry, before, hBlank, hLeft⟩ := hStale hLast
      exact ⟨geometry, hBlank.formed, hLeft.screen_eq ▸ hLeft.synced.shows.free⟩
    · obtain ⟨geometry, hSynced⟩ := hFresh hLast
      exact ⟨geometry, hSynced.formed, hSynced.shows.free⟩
  have hPlayed := played_setScreen player size runner.machine
  have hFitted := hFormed.setScreen hSize ((congrArg Attempt.fault hPlayed).symm.trans hFault)
  have hState : (runner.machine.setScreen size).state.played player = _ :=
    congrArg Attempt.state hPlayed
  rw [← hState] at hFitted
  have hConsole : (runner.machine.setScreen size).state.work.console =
      runner.machine.work.console.setScreen size := by
    obtain ⟨space, hSet⟩ := runner.machine.setScreen_state_eq size
    rw [hSet]
  obtain ⟨hPending, hZero⟩ := Console.setScreen_blank runner.machine.work.console size
  rw [← hConsole] at hPending hZero
  have hShown : (runner.screen.resize size).Shows
      (runner.machine.setScreen size).state.work.console.reached := by
    have hScreen : (runner.machine.setScreen size).state.work.console.reached.size = size :=
      hFitted.size_eq
    have hResized := @Lcd.shows_resize _
      (runner.machine.setScreen size).state.work.console.reached hFree hZero
    rwa [hScreen] at hResized
  have hSurfaced : rig.surface.resize size runner.screen = runner.screen.resize size := by
    rw [hSurface]
    rfl
  rw [← hSurfaced] at hShown
  obtain ⟨screen, hRedraw, hSynced⟩ := @synced_of_everything _ rig player
    { geometry with screen := size }
    { runner with
      machine := (runner.machine.setScreen size).state
      screen := rig.surface.resize size runner.screen }
    hSurface hFitted hSize.height_lt hPending _ hShown hFitted.size_eq stage
  exact ⟨_, screen, hRedraw, _, hSynced⟩

theorem Fresh.drawn (h : Fresh player machine screen) (hRun : actAll rig actions start = some runner)
    (hStage : runner.stage = stage) (hDrawn : endingAt .work stage = [.drawn]) :
    (LastRefused rig (actions ++ [.work]) start →
      Stale rig player start (actions ++ [.work]) machine screen) ∧
    (¬ LastRefused rig (actions ++ [.work]) start → Fresh player machine screen) := by
  subst hStage
  refine ⟨fun hLast => ?_, fun _ => h⟩
  rw [lastRefused_concat_iff .drawn hRun hDrawn] at hLast
  cases hLast

theorem Kept.turn (hPlays : rig.interpreter.PlaysText player)
    (hSurface : rig.surface = Lcd.surface)
    (h : Kept rig player start actions runner.machine runner.screen runner.stage)
    (hRun : actAll rig actions start = some runner)
    (hSizes : ∀ size rest, runner.stage = .applying (.resize size :: rest) → size.InRange)
    (turn : Turn rig runner next) :
    Kept rig player start (actions ++ [.work]) next.machine next.screen next.stage := by
  cases turn with
  | leave | quit | stumbled | misfit | fault | dispose | finish => trivial
  | take hStage | choose hStage | wait hStage | idle hStage | look hStage | rest hStage
  | applied hStage | start hStage =>
    have hSame := h.silent hRun hStage rfl
    exact hSame
  | begin hStage hReady =>
    obtain ⟨hStale, hFresh⟩ := h.silent hRun hStage rfl
    -- a machine that was prepared in vain has nothing to step
    have hLast : ¬ LastRefused rig (actions ++ [.work]) start := by
      intro hLast
      obtain ⟨geometry, before, hBlank, -⟩ := hStale hLast
      have hEnded : runner.machine.isEnd = true := hBlank.ended
      rw [isEnd, hReady] at hEnded
      cases hEnded
    exact ⟨hLast, hFresh hLast⟩
  | stepped hStage hFault =>
    obtain ⟨hLast, hFresh⟩ := h.silent hRun hStage rfl
    obtain ⟨after, screen, hRedraw, hAfter⟩ := hFresh.step hPlays hSurface hFault .fetching
    rw [hRedraw]
    exact ⟨fun hRefused => absurd hRefused hLast, fun _ => hAfter⟩
  | prepare hStage => exact h.prepare hPlays hRun hStage
  | @resized size rest hStage hFault =>
    obtain ⟨after, screen, hRedraw, hAfter⟩ :=
      h.resize hSurface (hSizes size rest hStage) hStage hFault (.applying rest)
    rw [hRedraw]
    exact hAfter.drawn hRun hStage rfl
  | @loaded program rest hStage hFault =>
    have hPrepared := h.silent hRun hStage rfl
    obtain ⟨after, screen, hRedraw, hAfter⟩ :=
      Prepared.takeOver hPlays hSurface hPrepared hFault (.reporting rest)
    rw [hRedraw]
    exact hAfter
  | refused hStage hFault =>
    have hPrepared := h.silent hRun hStage rfl
    exact Prepared.refused hPlays hPrepared hFault
  | report hStage =>
    rw [hStage] at h
    exact Fresh.drawn h hRun hStage rfl
  | reject hStage =>
    have hLast : LastRefused rig (actions ++ [.work]) start := by
      rw [lastRefused_concat_iff .refused hRun (by rw [hStage]; rfl)]
    rw [hStage] at h
    have hStale := Stale.concat h .work hRun (by rw [hStage]; simp [endingAt])
    exact ⟨fun _ => hStale, fun hFresh => absurd hLast hFresh⟩

theorem Kept.move (hPlays : rig.interpreter.PlaysText player)
    (hSurface : rig.surface = Lcd.surface)
    (h : Kept rig player start actions runner.machine runner.screen runner.stage)
    (hRun : actAll rig actions start = some runner)
    (hSizes : ∀ size rest, runner.stage = .applying (.resize size :: rest) → size.InRange)
    (move : Move rig runner action next) :
    Kept rig player start (actions ++ [action]) next.machine next.screen next.stage := by
  cases move with
  | work turn => exact h.turn hPlays hSurface hRun hSizes turn
  | request | cancel | drain | collect | mourn => exact h.still _ hRun rfl
  | signal | wake => exact (h.still _ hRun rfl).notified
  | crash => trivial

theorem kept_of_run (hPlays : rig.interpreter.PlaysText player)
    (hSurface : rig.surface = Lcd.surface) (hRange : geometry.InRange) {interp : ι}
    (hCreate : Machine.create geometry interp = .ok machine) {name : String} {slots : Nat}
    (hSizes : ∀ size, .request (.resize size) ∈ actions → size.InRange)
    (hRun : actAll rig actions (create machine (Lcd.ofSize name geometry.screen) slots) =
      some runner) :
    Kept rig player (create machine (Lcd.ofSize name geometry.screen) slots) actions
      runner.machine runner.screen runner.stage := by
  let start := create machine (Lcd.ofSize name geometry.screen) slots
  revert hSizes
  refine actAll_induction_along (motive := fun soFar middle =>
    (∀ size, .request (.resize size) ∈ soFar → size.InRange) →
      Kept rig player start soFar middle.machine middle.screen middle.stage) ?_ ?_ hRun
  · intro _
    have hFormed : WellFormed geometry (machine.played player) :=
      wellFormed_create hRange (played_create hCreate player)
    have hNew : machine.work.console = Console.ofSize geometry.screen := console_create hCreate
    have hZero : ∀ value ∈ machine.work.console.reached.grid.cells, value = 0 := by
      rw [hNew]
      exact Console.zero_ofSize geometry.screen
    have hShows := Lcd.shows_ofSize hZero name
    have hScreen : machine.work.console.reached.size = geometry.screen := hFormed.size_eq
    rw [hScreen] at hShows
    have hPending : machine.work.console.pending = RefreshMask.nothing := by
      rw [hNew]
      rfl
    exact ⟨nofun, fun _ => ⟨geometry, hFormed, hRange.screen.height_lt, hPending, hShows⟩⟩
  · intro soFar middle action after hSoFar ih move hSizes
    have hBefore : ∀ size, .request (.resize size) ∈ soFar → size.InRange :=
      fun size hMember => hSizes size (List.mem_append_left _ hMember)
    refine (ih hBefore).move hPlays hSurface hSoFar ?_ move
    intro size rest hStage
    exact hBefore size (request_of_resizing hSoFar hStage)

/-- Whenever the worker rests, the display shows the console, unless the last command to end was a
program that was refused. Then the console is blank and has nothing to draw, and the display shows
what the console had when the first program was about to be loaded of those refused since. -/
theorem snapshot_of_rest (hPlays : rig.interpreter.PlaysText player)
    (hSurface : rig.surface = Lcd.surface) (hRange : geometry.InRange) {interp : ι}
    (hCreate : Machine.create geometry interp = .ok machine) (name : String) (slots : Nat)
    {final : Runner ι Lcd} (hSizes : ∀ size, .request (.resize size) ∈ actions → size.InRange)
    (hRun : actAll rig actions (create machine (Lcd.ofSize name geometry.screen) slots) =
      some final)
    (hAsleep : final.stage.asleep = true) :
    let start := create machine (Lcd.ofSize name geometry.screen) slots
    let console := final.machine.work.console
    (¬ LastRefused rig actions start → final.screen.LooksLike console) ∧
    (LastRefused rig actions start →
      final.machine.isEnd = true ∧ console.pending = RefreshMask.nothing ∧
      (∀ value ∈ console.grid.cells, value = 0) ∧
      ∃ earlier later before, actions = earlier ++ later ∧
        actAll rig earlier start = some before ∧
        (∃ program rest, before.stage = .applying (.load program :: rest)) ∧
        (∀ ending ∈ endings rig later before, ending = .refused) ∧
        console.size = before.machine.work.console.size ∧
        final.screen.LooksLike before.machine.work.console) := by
  intro start console
  have hKept := kept_of_run hPlays hSurface hRange hCreate hSizes hRun
  obtain ⟨hStale, hFresh⟩ : (LastRefused rig actions start →
        Stale rig player start actions final.machine final.screen) ∧
      (¬ LastRefused rig actions start → Fresh player final.machine final.screen) := by
    cases hStage : final.stage
    case waiting | resting =>
      rw [hStage] at hKept
      exact hKept
    all_goals
      rw [hStage] at hAsleep
      cases hAsleep
  refine ⟨fun hLast => ?_, fun hLast => ?_⟩
  · obtain ⟨_, hSynced⟩ := hFresh hLast
    exact hSynced.looksLike
  · obtain ⟨_, before, hBlank, hReached, hLoading, hSynced, hScreen⟩ := hStale hLast
    obtain ⟨earlier, later, hActions, hEarlier, hRefused⟩ := hReached
    refine ⟨hBlank.ended, hBlank.settled, hBlank.zero, earlier, later, before, hActions, hEarlier,
      hLoading, hRefused, hBlank.formed.size_eq.trans hSynced.formed.size_eq.symm, ?_⟩
    rw [hScreen]
    exact hSynced.looksLike

def choosyRig : Rig (Counted Player) Lcd where
  interpreter := Player.interpreter.counted [2] "refused"
  surface := Lcd.surface
  exitOnFinish := false

/-- The first program has printed its text and the worker rests; then the second one comes. -/
def refusedAfterText : List Action :=
  .request (.launch ⟨"first", #[0x61]⟩) :: .signal :: .replicate 12 .work ++
    [.request (.launch ⟨"second", #[0x62]⟩), .signal] ++ .replicate 6 .work

theorem snapshot_of_refusedAfterText :
    let screen := Lcd.ofSize "lcd" Watched.tinyGeometry.screen
    ∃ machine final, ∃ before : Runner (Counted Player) Lcd,
      Machine.create Watched.tinyGeometry (Counted.start Player.idle) = .ok machine ∧
      actAll choosyRig refusedAfterText (create machine screen 4) = some final ∧
      final.stage = .waiting ∧ final.screen.lines = #[[0x61, 0x00], [0x00, 0x00]] ∧
      (∀ value ∈ final.machine.work.console.grid.cells, value = 0) ∧
      final.screen.LooksLike before.machine.work.console ∧
      ¬ final.screen.LooksLike final.machine.work.console := by
  intro screen
  have hRange : Watched.tinyGeometry.InRange :=
    ⟨⟨by decide, by decide⟩, by decide, by decide⟩
  have hSizes : ∀ size, .request (.resize size) ∈ refusedAfterText → size.InRange := by
    intro size hMember
    simp [refusedAfterText] at hMember
  have hRun : ∃ machine,
      Machine.create Watched.tinyGeometry (Counted.start Player.idle) = .ok machine ∧
      (actAll choosyRig refusedAfterText (create machine screen 4)).map
        (fun final => (final.stage, final.screen.lines, decide (final.screen.snapshot =
          (Lcd.surface.present
            (final.machine.work.console.refreshCalls RefreshMask.everything)
            (Lcd.ofSize "new" final.machine.work.console.size)).state.snapshot))) =
        some (.waiting, #[[0x61, 0x00], [0x00, 0x00]], false) ∧
      LastRefused choosyRig refusedAfterText (create machine screen 4) := by
    refine ⟨_, rfl, ?_, ?_⟩
    · decide +kernel
    · rw [LastRefused]
      decide +kernel
  obtain ⟨machine, hCreate, hMap, hLast⟩ := hRun
  obtain ⟨final, hFinal, hEnd⟩ := Option.map_eq_some_iff.mp hMap
  simp only [Prod.mk.injEq, decide_eq_false_iff_not] at hEnd
  obtain ⟨hStage, hLines, hDiffers⟩ := hEnd
  obtain ⟨-, hRefused⟩ := snapshot_of_rest (Counted.playsText [2] "refused") rfl hRange hCreate
    "lcd" 4 hSizes hFinal (by rw [hStage]; rfl)
  obtain ⟨-, -, hZero, earlier, later, before, -, -, -, -, -, hLooks⟩ := hRefused hLast
  exact ⟨machine, final, before, hCreate, hFinal, hStage, hLines, hZero, hLooks,
    fun hNow => hDiffers (hNow "new").2⟩

end Way

end Runner
end Handheld
