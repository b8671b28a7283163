import Handheld.Proofs.Console.Actions
import Handheld.Proofs.Machine.Words

/-! # Assembled workspaces

In an assembled workspace the address space has the contents and the sizes of a geometry, and its
text region shows the page that the console writes. Creating a machine, clearing its memory, using
its console and fitting it to another screen all lead to assembled workspaces.
-/
set_option autoImplicit false
namespace Handheld
namespace Workspace

structure Assembled (geometry : Geometry) (contents : Contents) (work : Workspace) : Prop where
  space_eq : work.space = contents.space
  laidOut : contents.space.LaidOut
  measures : contents.Measures geometry
  screen_eq : work.console.size = geometry.screen
  text_eq : contents.text = work.console.pages.view
  sound : work.console.Sound

variable {geometry : Geometry} {contents : Contents} {work : Workspace}

namespace Assembled

theorem fits (h : Assembled geometry contents work) : geometry.Fits :=
  Contents.fits_of_laidOut h.laidOut h.measures

theorem withConsole (h : Assembled geometry contents work) {console : Console}
    (hPage : work.console.SamePage console) (hSound : console.Sound) :
    Assembled geometry contents ⟨work.space, console⟩ where
  space_eq := h.space_eq
  laidOut := h.laidOut
  measures := h.measures
  screen_eq := hPage.size_eq.trans h.screen_eq
  text_eq := h.text_eq.trans hPage.view_eq.symm
  sound := hSound

theorem apply (h : Assembled geometry contents work) {action : Console.Action}
    (hScreen : ∀ size, action = .setScreen size → size = work.console.size) :
    Assembled geometry contents (work.onConsole action.apply) :=
  h.withConsole (Console.samePage_apply hScreen) (h.sound.apply action)

theorem withContents (h : Assembled geometry contents work) {other : Contents}
    (hShape : contents.SameShape other) :
    Assembled geometry other ⟨other.space, work.console⟩ where
  space_eq := rfl
  laidOut := Contents.laidOut_space (hShape.measures h.measures) h.fits
  measures := hShape.measures h.measures
  screen_eq := h.screen_eq
  text_eq := hShape.text_eq.trans h.text_eq
  sound := h.sound

theorem modifyWindow (h : Assembled geometry contents work) (change : Window → Window) :
    Assembled geometry { contents with window := change contents.window }
      ⟨work.space.modifyWindow change, work.console⟩ where
  space_eq := by rw [h.space_eq, Contents.modifyWindow_space h.laidOut]
  laidOut := Contents.laidOut_space h.measures h.fits
  measures := h.measures
  screen_eq := h.screen_eq
  text_eq := h.text_eq
  sound := h.sound

end Assembled

theorem pages_clearAll (contents : Contents) {pages : TextPages}
    (hText : contents.text.serial = pages.retired.size) :
    (Store.clearAll ⟨contents.space, pages⟩).pages =
      { pages with live := pages.live.map fun _ => 0 } := by
  have hFold : (Store.clearAll ⟨contents.space, pages⟩).pages =
      pages.modify contents.text.serial (·.map fun _ => 0) := rfl
  rw [hFold, TextPages.modify, if_pos hText]

theorem Assembled.clearAll_eq (h : Assembled geometry contents work) :
    work.clearAll = ⟨contents.zeroed.space, (Console.Action.setCells 0).apply work.console⟩ := by
  obtain ⟨space, console⟩ := work
  obtain rfl : space = contents.space := h.space_eq
  have hSerial : contents.text.serial = console.pages.retired.size := by
    rw [h.text_eq]
    rfl
  rw [Workspace.clearAll, Contents.space_clearAll h.laidOut, pages_clearAll contents hSerial]
  rfl

theorem Assembled.clearAll (h : Assembled geometry contents work) :
    Assembled geometry contents.zeroed work.clearAll := by
  rw [h.clearAll_eq]
  have hCells : Assembled geometry contents
      ⟨work.space, (Console.Action.setCells 0).apply work.console⟩ :=
    h.apply fun _ hScreen => nomatch hScreen
  exact hCells.withContents contents.sameShape_zeroed

end Workspace

namespace Machine
open Workspace

variable {ι : Type} {geometry : Geometry} {contents : Contents} {machine : Machine ι}

theorem assembled_create (hRange : geometry.InRange) {interp : ι}
    (hCreate : create geometry interp = .ok machine) :
    Assembled geometry (.blank geometry ⟨0, geometry.screen.textCells⟩) machine.work := by
  have hView : (Console.ofSize geometry.screen).pages.view = ⟨0, geometry.screen.textCells⟩ := by
    simp [Console.pages, TextPages.view, Console.ofSize, Grid.blank]
  rw [create, hView] at hCreate
  split at hCreate
  · cases hCreate
  · rename_i space hLayout
    cases hCreate
    obtain ⟨hSpace, hLaid⟩ := Contents.layout_space hRange rfl hLayout
    exact
      { space_eq := hSpace
        laidOut := hSpace ▸ hLaid
        measures := Contents.measures_blank rfl
        screen_eq := rfl
        text_eq := hView.symm
        sound := Console.sound_ofSize geometry.screen }

theorem console_create {interp : ι} (hCreate : create geometry interp = .ok machine) :
    machine.work.console = Console.ofSize geometry.screen := by
  rw [create] at hCreate
  split at hCreate
  · cases hCreate
  · cases hCreate
    rfl

theorem exists_create (hRange : geometry.InRange) (hFits : geometry.Fits) (interp : ι) :
    ∃ machine, create geometry interp = .ok machine ∧
      machine.work.console = Console.ofSize geometry.screen := by
  have hText : (Console.ofSize geometry.screen).pages.view.size = geometry.screen.textCells :=
    Array.size_replicate
  obtain ⟨space, hLayout⟩ := Contents.exists_layout hRange hFits hText
  refine ⟨⟨interp, ⟨space, Console.ofSize geometry.screen⟩, .ended, none⟩, ?_, rfl⟩
  rw [create, hLayout]

theorem work_prepare (interpreter : Interpreter ι) (machine : Machine ι) :
    (machine.prepare interpreter).work =
      machine.work.clearAll.onConsole fun console => console.setScreen console.size := by
  rw [prepare]
  dsimp only
  split
  · rfl
  · rfl

theorem setScreen_same {size : PixelSize} (hSame : size = machine.work.console.size) :
    machine.setScreen size =
      .done (machine.onConsole fun console => (Console.Action.setScreen size).apply console) := by
  rw [setScreen]
  exact if_pos hSame

theorem assembled_setScreen (h : Assembled geometry contents machine.work) {size : PixelSize}
    (hSize : size.InRange) (hNew : size ≠ machine.work.console.size)
    (hOk : (machine.setScreen size).fault = none) :
    (machine.setScreen size).state.work.console = machine.work.console.setScreen size ∧
    Assembled { geometry with screen := size }
      (contents.fitted size (machine.work.console.setScreen size).pages.view)
      (machine.setScreen size).state.work := by
  obtain ⟨interp, ⟨space, console⟩, phase, program⟩ := machine
  obtain rfl : space = contents.space := h.space_eq
  obtain ⟨hScreen, hView, _⟩ := Console.setScreen_of_ne hNew
  have hText : (console.setScreen size).pages.view.size = size.textCells := by rw [hView]
  rw [setScreen, if_neg hNew] at hOk ⊢
  dsimp only [Attempt.map, Attempt.mapFault] at hOk ⊢
  obtain ⟨hSpace, hLaid⟩ :=
    Contents.fitScreen_space h.laidOut hSize hText (Option.map_eq_none_iff.mp hOk)
  refine ⟨rfl, ?_⟩
  exact
    { space_eq := hSpace
      laidOut := hLaid
      measures := Contents.measures_fitted h.measures hText
      screen_eq := hScreen
      text_eq := rfl
      sound := h.sound.setScreen size }

end Machine
end Handheld
