import Handheld.Proofs.Console.Cells
import Handheld.Proofs.Display.Snapshot
import Handheld.Proofs.Player.Machine

/-! # Redrawing after every step

A machine is watched by drawing, after each step, the rows that its player asks for. The display
then always looks as if the whole console had just been drawn on it: whatever an instruction
changes, its request covers.
-/
set_option autoImplicit false
namespace Handheld

theorem RefreshMask.only_spec : ∀ row < 8, only row ≠ nothing ∧ draws (only row) row = true := by
  decide

namespace Player

/-- A console on which the rows of a mask were drawn looks up to date wherever it did before. -/
def Covers (console after : Console) (mask : UInt8) : Prop :=
  ∀ (i : Nat) (old : List UInt8), Lcd.shownLine old = Lcd.shownLine (console.rowText i) →
    Lcd.shownLine (after.redrawn mask i old) = Lcd.shownLine (after.rowText i)

theorem covers_everything (console after : Console) :
    Covers console after RefreshMask.everything := by
  intro i old _
  rw [Console.redrawn_everything]

theorem covers_nothing {console after : Console}
    (h : ∀ i, after.rowText i = console.rowText i) :
    Covers console after RefreshMask.nothing := by
  intro i old hOld
  rw [Console.redrawn_nothing, h, hOld]

theorem covers_only {console after : Console} {row : Nat} (hRow : row < 8)
    (hRows : after.grid.rows = console.grid.rows)
    (h : ∀ i < console.grid.rows, i ≠ row → after.grid.rowBytes i = console.grid.rowBytes i) :
    Covers console after (RefreshMask.only row) := by
  intro i old hOld
  obtain ⟨hSome, hDraws⟩ := RefreshMask.only_spec row hRow
  by_cases hEverything : RefreshMask.only row = RefreshMask.everything
  · rw [hEverything, Console.redrawn_everything]
  rw [Console.redrawn, if_neg hSome, if_neg hEverything]
  by_cases hInside : i < console.grid.rows
  · have hText : after.rowText i = after.grid.rowBytes i := by
      rw [Console.rowText, hRows, if_pos hInside]
    split
    · rw [hText]
    · rename_i hSkipped
      have hOther : i ≠ row := by
        rintro rfl
        exact hSkipped ⟨hRows ▸ hInside, hDraws⟩
      rw [hText, h i hInside hOther, hOld, Console.rowText, if_pos hInside]
  · have hBelow : ¬ (i < after.grid.rows ∧ RefreshMask.draws (RefreshMask.only row) i = true) := by
      rw [hRows]
      exact fun hDrawn => hInside hDrawn.1
    have hBlank : console.rowText i = [] := by rw [Console.rowText, if_neg hInside]
    have hStill : after.rowText i = [] := by rw [Console.rowText, hRows, if_neg hInside]
    rw [if_neg hBelow, hOld, hBlank, hStill]

/-- Printing asks for the row of the cursor alone only if no other row has changed. -/
theorem covers_print {console : Console} (hSound : console.Sound)
    (hPending : console.pending = RefreshMask.nothing) (code : UInt16) :
    Covers console (print code console) (print code console).pending := by
  have hDims := Grid.dims_addChar console.grid code
  rw [print]
  dsimp only [Console.requestRefresh]
  split
  · rename_i hStays
    obtain ⟨hScrolls, hRow, hNamed⟩ := hStays
    have hAsked : (console.addChar code).pending &&& RefreshMask.only console.grid.row =
        RefreshMask.only console.grid.row := by
      rw [Console.addChar, Console.withGrid, hPending, RefreshMask.nothing_and]
    rw [hAsked]
    apply covers_only hNamed (Grid.rows_eq_of_dims hDims)
    intro i hi hOther
    exact Grid.rowBytes_addChar hSound.grid hScrolls hRow hi hOther
  · have hAsked : (console.addChar code).pending &&& RefreshMask.everything =
        RefreshMask.everything := by
      rw [Console.addChar, Console.withGrid, hPending, RefreshMask.nothing_and]
    rw [hAsked]
    exact covers_everything _ _

theorem covers_perform {console : Console} (hSound : console.Sound)
    (hPending : console.pending = RefreshMask.nothing) (instruction : Instruction) :
    Covers console (perform instruction console) (perform instruction console).pending := by
  have hAsked : console.pending &&& RefreshMask.everything = RefreshMask.everything := by
    rw [hPending, RefreshMask.nothing_and]
  cases instruction with
  | finish =>
    rw [perform, hPending]
    exact covers_nothing fun _ => rfl
  | locate row col =>
    have hStill : (perform (.locate row col) console).pending = RefreshMask.nothing := hPending
    rw [hStill]
    exact covers_nothing fun _ => rfl
  | setFont code =>
    have hAll : (perform (.setFont code) console).pending = RefreshMask.everything := hAsked
    rw [hAll]
    exact covers_everything _ _
  | scroll =>
    have hAll : (perform .scroll console).pending = RefreshMask.everything := hAsked
    rw [hAll]
    exact covers_everything _ _
  | clear =>
    have hAll : (perform .clear console).pending = RefreshMask.everything := hAsked
    rw [hAll]
    exact covers_everything _ _
  | print code => exact covers_print hSound hPending code

end Player

structure Watched where
  machine : Machine Player
  lcd : Lcd

namespace Watched

def refresh : Watched → Attempt ScreenError Watched
  | ⟨machine, lcd⟩ =>
    let console := machine.work.console
    (Lcd.surface.present (console.refreshCalls console.pending) lcd).map fun lcd =>
      ⟨machine.onConsole Console.settlePending, lcd⟩

def step : Watched → Attempt (MachineError ⊕ ScreenError) Watched
  | ⟨machine, lcd⟩ =>
    let stepped := machine.step Player.interpreter
    let watched : Watched := ⟨stepped.state, lcd⟩
    match stepped.fault with
    | some e => .stopped (.inl e) watched
    | none => watched.refresh.mapFault .inr

def run : Nat → Watched → Attempt (MachineError ⊕ ScreenError) Watched
  | 0, watched => .done watched
  | n + 1, watched => watched.step.andThen (run n)

/-- Nothing is left to draw, and the display shows the console. -/
structure UpToDate (geometry : Geometry) (watched : Watched) : Prop where
  machine : Machine.WellFormed geometry watched.machine
  settled : watched.machine.work.console.pending = RefreshMask.nothing
  shows : watched.lcd.Shows watched.machine.work.console

variable {geometry : Geometry} {watched : Watched}

theorem upToDate_refresh (h : Machine.WellFormed geometry watched.machine) {before : Console}
    (hShows : watched.lcd.Shows before) (hSize : before.size = geometry.screen)
    (hHeight : geometry.screen.height < heightLimit)
    (hCovers : Player.Covers before watched.machine.work.console
      watched.machine.work.console.pending) :
    ∃ after, watched.refresh = .done after ∧ UpToDate geometry after := by
  obtain ⟨machine, lcd⟩ := watched
  have hScreen : machine.work.console.size = geometry.screen := h.size_eq
  obtain ⟨drawn, hPresent, hDrawn⟩ := hShows.present
    (h.sound.reaching (by rwa [hScreen])) (hScreen.trans hSize.symm) hCovers
  refine ⟨⟨machine.onConsole Console.settlePending, drawn⟩, ?_, ?_⟩
  · rw [refresh, hPresent]
    rfl
  · exact
      { machine := h.settle
        settled := rfl
        shows := ⟨hDrawn.free, hDrawn.size_eq, hDrawn.count_eq, hDrawn.line_eq⟩ }

theorem UpToDate.step (h : UpToDate geometry watched)
    (hHeight : geometry.screen.height < heightLimit) :
    (∃ e, watched.step.fault = some (.inl e)) ∨
      ∃ after, watched.step = .done after ∧ UpToDate geometry after := by
  obtain ⟨machine, lcd⟩ := watched
  obtain ⟨hMachine, hConsole⟩ := Machine.step_spec h.machine
  cases hFault : (machine.step Player.interpreter).fault with
  | some e =>
    left
    exact ⟨e, by simp only [Watched.step, hFault]; rfl⟩
  | none =>
    right
    have hCovers : Player.Covers machine.work.console
        (machine.step Player.interpreter).state.work.console
        (machine.step Player.interpreter).state.work.console.pending := by
      rcases hConsole with hStill | ⟨instruction, hPerformed⟩
      · rw [hStill, h.settled]
        exact Player.covers_nothing fun _ => rfl
      · rw [hPerformed]
        exact Player.covers_perform h.machine.sound h.settled instruction
    obtain ⟨after, hRefresh, hAfter⟩ :=
      @upToDate_refresh geometry ⟨(machine.step Player.interpreter).state, lcd⟩ hMachine _ h.shows
        h.machine.size_eq hHeight hCovers
    refine ⟨after, ?_, hAfter⟩
    simp only [Watched.step, hFault, hRefresh]
    rfl

theorem UpToDate.run (h : UpToDate geometry watched)
    (hHeight : geometry.screen.height < heightLimit) (steps : Nat) :
    (∃ e, (watched.run steps).fault = some (.inl e)) ∨
      ∃ after, watched.run steps = .done after ∧ UpToDate geometry after := by
  induction steps generalizing watched with
  | zero => exact .inr ⟨watched, rfl, h⟩
  | succ n ih =>
    rw [Watched.run]
    rcases h.step hHeight with ⟨e, hFault⟩ | ⟨after, hStep, hAfter⟩
    · left
      refine ⟨e, ?_⟩
      rw [Attempt.andThen, hFault]
      exact hFault
    · rw [hStep, Attempt.done_andThen]
      exact ih hAfter

theorem upToDate_load {machine : Machine Player} (h : Machine.WellFormed geometry machine)
    (program : Program) (name : String) :
    UpToDate geometry
      ⟨(machine.load Player.interpreter program).state, Lcd.ofSize name geometry.screen⟩ := by
  obtain ⟨hLoaded, _, hConsole⟩ := Machine.load_spec h program
  obtain ⟨hPending, hZero⟩ := Console.setScreen_blank machine.work.clearAll.console _
  rw [← hConsole] at hPending hZero
  have hShows := Lcd.shows_ofSize hZero name
  rw [hLoaded.size_eq] at hShows
  exact ⟨hLoaded, hPending, hShows⟩

/-- Drawing only what the player asks for shows the same as drawing everything. A program is always
taken over, and no redraw after a step finds the display locked; as long as the steps succeed, the
display that was kept up to date has the snapshot of a new one on which the whole console is
drawn. -/
theorem snapshot_of_run (hRange : geometry.InRange) (hHeight : geometry.screen.height < heightLimit)
    {machine : Machine Player} (hCreate : Machine.create geometry Player.idle = .ok machine)
    (program : Program) (name other : String) (steps : Nat) :
    let loaded := machine.load Player.interpreter program
    let watched := Watched.run steps ⟨loaded.state, Lcd.ofSize name geometry.screen⟩
    loaded.fault = none ∧ (∀ e, watched.fault ≠ some (.inr e)) ∧
    (watched.fault = none →
      let console := watched.state.machine.work.console
      let whole := Lcd.surface.present (console.refreshCalls RefreshMask.everything)
        (Lcd.ofSize other geometry.screen)
      whole.fault = none ∧ watched.state.lcd.snapshot = whole.state.snapshot) := by
  intro loaded watched
  have hMachine := Machine.wellFormed_create hRange hCreate
  refine ⟨(Machine.load_spec hMachine program).2.1, ?_⟩
  rcases (upToDate_load hMachine program name).run hHeight steps with
    ⟨e, hFault⟩ | ⟨after, hRun, hAfter⟩
  · have hStopped : watched.fault = some (.inl e) := hFault
    rw [hStopped]
    exact ⟨nofun, nofun⟩
  · have hDone : watched = .done after := hRun
    rw [hDone]
    refine ⟨nofun, fun _ => ?_⟩
    have hScreen : after.machine.work.console.size = geometry.screen := hAfter.machine.size_eq
    obtain ⟨drawn, hPresent, hDrawn⟩ :=
      Lcd.shows_everything hAfter.machine.sound (by rwa [hScreen]) other
    rw [hScreen] at hPresent
    intro console whole
    have hWhole : whole = .done drawn := hPresent
    rw [hWhole]
    exact ⟨rfl, hAfter.shows.snapshot_eq hDrawn⟩

def tinyGeometry : Geometry := ⟨⟨16, 32⟩, 8, 1⟩

/-- A row that fills up, and a wide character that finds one cell left in the next one. -/
def tinyText : Program := ⟨"tiny", #[0x61, 0x62, 0x63, 0xa1, 0xb0]⟩

theorem snapshot_of_tinyText :
    ∃ machine, tinyGeometry.InRange ∧ tinyGeometry.screen.height < heightLimit ∧
      Machine.create tinyGeometry Player.idle = .ok machine ∧
      let loaded := machine.load Player.interpreter tinyText
      let watched := Watched.run 4 ⟨loaded.state, Lcd.ofSize "lcd" tinyGeometry.screen⟩
      let console := watched.state.machine.work.console
      let whole := Lcd.surface.present (console.refreshCalls RefreshMask.everything)
        (Lcd.ofSize "new" tinyGeometry.screen)
      watched.fault = none ∧ watched.state.lcd.lines = #[[0x63, 0x20], [0xa1, 0xb0]] ∧
        watched.state.lcd.snapshot = whole.state.snapshot := by
  have hRange : tinyGeometry.InRange := ⟨⟨by decide, by decide⟩, by decide, by decide⟩
  have hHeight : tinyGeometry.screen.height < heightLimit := by decide
  have hRun : ∃ machine, Machine.create tinyGeometry Player.idle = .ok machine ∧
      let watched := Watched.run 4 ⟨(machine.load Player.interpreter tinyText).state,
        Lcd.ofSize "lcd" tinyGeometry.screen⟩
      watched.fault = none ∧ watched.state.lcd.lines = #[[0x63, 0x20], [0xa1, 0xb0]] := by
    refine ⟨_, rfl, ?_, ?_⟩
    · decide +kernel
    · decide +kernel
  obtain ⟨machine, hCreate, hFault, hLines⟩ := hRun
  obtain ⟨_, _, hSnapshot⟩ :=
    snapshot_of_run hRange hHeight hCreate tinyText "lcd" "new" 4
  exact ⟨machine, hRange, hHeight, hCreate, hFault, hLines, (hSnapshot hFault).2⟩

end Watched
end Handheld
