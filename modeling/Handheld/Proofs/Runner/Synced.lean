import Handheld.Proofs.Player.Refusal
import Handheld.Proofs.Player.Settled
import Handheld.Runner.Worker

/-! # A display in step with its console

The display of a runner shows the console, with nothing left to draw. A redraw brings it there if it
covers what has changed since; a redraw of the whole console always does.
-/
set_option autoImplicit false
namespace Handheld

namespace Lcd
variable {lcd : Lcd} {console : Console}

/-- The display has the snapshot of a new one on which the whole console is drawn. -/
def LooksLike (lcd : Lcd) (console : Console) : Prop :=
  ∀ name,
    let whole := surface.present (console.refreshCalls RefreshMask.everything)
      (ofSize name console.size)
    whole.fault = none ∧ lcd.snapshot = whole.state.snapshot

theorem Shows.looksLike (h : lcd.Shows console.reached) (hSound : console.Sound)
    (hHeight : console.size.height < 0x100000000) : lcd.LooksLike console := by
  intro name
  obtain ⟨drawn, hPresent, hDrawn⟩ := shows_reached hSound hHeight name
  rw [hPresent]
  exact ⟨rfl, h.snapshot_eq hDrawn⟩

theorem shows_resize (hFree : lcd.locked = false)
    (hZero : ∀ value ∈ console.grid.cells, value = 0) :
    (lcd.resize console.size).Shows console where
  free := hFree
  size_eq := rfl
  count_eq := Array.size_replicate
  line_eq := (shows_ofSize hZero lcd.name).line_eq

end Lcd

namespace Runner
open Machine
variable {ι : Type}

/-- The display shows the console of a machine, and nothing is left to draw. -/
structure Synced (geometry : Geometry) (machine : Machine Player) (screen : Lcd) : Prop where
  formed : WellFormed geometry machine
  height_lt : geometry.screen.height < 0x100000000
  settled : machine.work.console.pending = RefreshMask.nothing
  shows : screen.Shows machine.work.console.reached

theorem Synced.looksLike {geometry : Geometry} {machine : Machine Player} {screen : Lcd}
    (h : Synced geometry machine screen) : screen.LooksLike machine.work.console :=
  h.shows.looksLike h.formed.sound (by rw [h.formed.size_eq]; exact h.height_lt)

section View
variable {rig : Rig ι Lcd} {player : ι → Player} {geometry : Geometry} {runner : Runner ι Lcd}

theorem synced_redrawThen (hSurface : rig.surface = Lcd.surface)
    (h : WellFormed geometry (runner.machine.played player))
    (hHeight : geometry.screen.height < 0x100000000) {before : Console}
    (hShows : runner.screen.Shows before.reached) (hSize : before.size = geometry.screen)
    (hCovers : Player.Covers before.reached runner.machine.work.console.reached
      runner.machine.work.console.pending) (stage : Stage) :
    let drawn := runner.machine.onConsole Console.settlePending
    ∃ screen, runner.redrawThen rig stage = { runner with machine := drawn, screen, stage } ∧
      Synced geometry (drawn.played player) screen := by
  have hScreen : runner.machine.work.console.size = geometry.screen := h.size_eq
  obtain ⟨screen, hRedraw, hDrawn⟩ := Lcd.redraw_shows hShows h.sound (hScreen.trans hSize.symm)
    (by rwa [work_played, hScreen]) hCovers
  rw [work_played] at hRedraw hDrawn
  refine ⟨screen, ?_, h.settle, hHeight, rfl, hDrawn⟩
  rw [redrawThen, hSurface, hRedraw]
  rfl

theorem synced_of_everything (hSurface : rig.surface = Lcd.surface)
    (h : WellFormed geometry (runner.machine.played player))
    (hHeight : geometry.screen.height < 0x100000000)
    (hSettled : runner.machine.work.console.pending = RefreshMask.nothing) {before : Console}
    (hShows : runner.screen.Shows before.reached) (hSize : before.size = geometry.screen)
    (stage : Stage) :
    let drawn := runner.machine.onConsole Console.settlePending
    ∃ screen,
      { runner with
        machine := runner.machine.onConsole fun console =>
          console.requestRefresh RefreshMask.everything
        }.redrawThen rig stage = { runner with machine := drawn, screen, stage } ∧
        Synced geometry (drawn.played player) screen := by
  have hAsked : (runner.machine.onConsole fun console =>
      console.requestRefresh RefreshMask.everything).work.console.pending =
        RefreshMask.everything := by
    change _ &&& RefreshMask.everything = _
    rw [hSettled, RefreshMask.nothing_and]
  exact @synced_redrawThen _ _ player _
    { runner with
      machine := runner.machine.onConsole fun console =>
        console.requestRefresh RefreshMask.everything }
    hSurface (h.requestRefresh RefreshMask.everything) hHeight _ hShows hSize
    (by rw [hAsked]; exact Player.covers_everything _ _) stage

end View

end Runner
end Handheld
