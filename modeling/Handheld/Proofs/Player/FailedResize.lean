import Handheld.Proofs.Player.Form

/-! # A screen that does not fit

The console turns to a new screen before memory is fitted to it, and does not turn back if memory
cannot be. A machine with such a screen stays between the two: it has the console of the new one and
at least one region of the old one.
-/
set_option autoImplicit false
namespace Handheld
open AddressSpace

namespace Machine

/-- A screen that does not fit is left half set. The console has turned to a blank page of the new
size; of the text page and the pictures only those in front of the one that did not fit have been
exchanged, so that the old text page may still be in memory although the console has left it. To
set the same screen again changes no memory and succeeds. -/
theorem setScreen_halfway {ι : Type} {machine : Machine ι} {size : PixelSize}
    (h : LaidOut machine.work.space) (hSize : size.InRange)
    {e : MachineError} (hFault : (machine.setScreen size).fault = some e) :
    let after := (machine.setScreen size).state
    let old := machine.work.console
    let console := after.work.console
    size ≠ old.size ∧
    (console.size = size ∧ console.font = .big ∧ console.pending = RefreshMask.nothing ∧
      console.grid.row = 0 ∧ console.grid.col = 0 ∧
      console.grid.cells = Array.replicate size.textCells 0 ∧
      console.pages.view ≠ old.pages.view) ∧
    (after.interp = machine.interp ∧ after.phase = machine.phase ∧
      after.program = machine.program) ∧
    (LaidOut after.work.space ∧
      ∃ changed kept, screenRegions size console.pages.view = changed ++ kept ∧ kept ≠ [] ∧
        (changed = [] → after.work.space = machine.work.space) ∧
        Exchanged changed machine.work.space after.work.space) ∧
    (after.setScreen size).fault = none ∧
      (after.setScreen size).state.work.space = after.work.space := by
  have hNew : size ≠ machine.work.console.size := by
    intro hSame
    rw [setScreen_same hSame] at hFault
    cases hFault
  obtain ⟨hScreen, hView, hCells⟩ := Console.setScreen_of_ne hNew
  obtain ⟨hLaid, changed, kept, hSplit, hEnd, hFirst, hExchanged⟩ :=
    hSize.fitScreen_cases h (congrArg PageView.size hView)
  rw [setScreen_of_ne hNew] at hFault ⊢
  intro after old console
  have hKept : kept ≠ [] := by
    intro hNone
    rw [Option.map_eq_some_iff] at hFault
    obtain ⟨_, hSome, _⟩ := hFault
    rw [hEnd.mpr hNone] at hSome
    cases hSome
  have hConsole : console = _ := if_neg hNew
  have hReset : console.font = .big ∧ console.pending = RefreshMask.nothing ∧
      console.grid.row = 0 ∧ console.grid.col = 0 := by
    rw [hConsole]
    exact ⟨rfl, rfl, rfl, rfl⟩
  obtain ⟨hFont, hPending, hRow, hCol⟩ := hReset
  -- every page has a serial of its own, so the new one is not the old one
  have hTurned : console.pages.view ≠ old.pages.view := by
    have hSerial : console.pages.view.serial = old.pages.view.serial + 1 :=
      congrArg PageView.serial hView
    intro hSame
    rw [hSame] at hSerial
    exact absurd hSerial.symm (Nat.succ_ne_self _)
  have hAgain : after.setScreen size = _ := setScreen_same hScreen.symm
  refine ⟨hNew, ⟨hScreen, hFont, hPending, hRow, hCol, hCells, hTurned⟩, ⟨rfl, rfl, rfl⟩,
    ⟨hLaid, changed, kept, hSplit, hKept, hFirst, hExchanged⟩, ?_, ?_⟩
  · rw [hAgain]
    rfl
  · rw [hAgain]
    rfl

/-- The screen is too narrow for a column of text, and setting it is tried twice. -/
theorem halfway_of_narrowScreen :
    ∃ machine, create ⟨⟨16, 32⟩, 8, 1⟩ Player.idle = .ok machine ∧
      let played := machine.after [.load ⟨"ab", #[0x61, 0x62]⟩, .step]
      let failed := played.setScreen ⟨5, 32⟩
      LaidOut played.work.space ∧ failed.fault = some (.memory (.zeroSize .text)) ∧
        played.work.console.grid.cells = #[0x61, 0, 0, 0] ∧
        failed.state.work.console.grid.cells = #[] ∧
        failed.state.work.console.pages.view ≠ played.work.console.pages.view ∧
        (failed.state.setScreen ⟨5, 32⟩).fault = none := by
  have hRange : Geometry.InRange ⟨⟨16, 32⟩, 8, 1⟩ :=
    ⟨⟨by decide, by decide⟩, by decide, by decide⟩
  have hRun : ∃ machine, create ⟨⟨16, 32⟩, 8, 1⟩ Player.idle = .ok machine ∧
      let played := machine.after [.load ⟨"ab", #[0x61, 0x62]⟩, .step]
      played.work.console.grid.cells = #[0x61, 0, 0, 0] ∧
        (played.setScreen ⟨5, 32⟩).fault = some (.memory (.zeroSize .text)) := by
    refine ⟨_, rfl, ?_, ?_⟩
    · decide +kernel
    · decide +kernel
  obtain ⟨machine, hCreate, hCells, hFault⟩ := hRun
  have hLaid : LaidOut (machine.after [.load ⟨"ab", #[0x61, 0x62]⟩, .step]).work.space :=
    laidOut_after (laidOut_create hRange hCreate) (by simp [Call.InRange])
  obtain ⟨_, ⟨_, _, _, _, _, hBlank, hTurned⟩, _, _, hAgain, _⟩ :=
    setScreen_halfway hLaid ⟨by decide, by decide⟩ hFault
  exact ⟨machine, hCreate, hLaid, hFault, hCells, hBlank, hTurned, hAgain⟩

end Machine
end Handheld
