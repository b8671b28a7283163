import Handheld.Proofs.Machine.Sizes
import Handheld.Proofs.Player.Form

/-! # When a screen can be changed

While a screen is changed, memory holds regions of both screens. So a machine may refuse a screen
that a new machine of the same memory sizes would take: its text also needs room beside the old
pictures.
-/
set_option autoImplicit false
namespace Handheld
open AddressSpace

namespace Workspace

structure SameLayout (work after : Workspace) : Prop where
  outlines_eq : after.space.regions.map Region.outline = work.space.regions.map Region.outline
  firsts_eq : after.space.firsts = work.space.firsts
  size_eq : after.console.size = work.console.size

theorem SameLayout.refl (work : Workspace) : SameLayout work work := ⟨rfl, rfl, rfl⟩

theorem SameLayout.trans {a b c : Workspace} (hab : SameLayout a b) (hbc : SameLayout b c) :
    SameLayout a c where
  outlines_eq := hbc.outlines_eq.trans hab.outlines_eq
  firsts_eq := hbc.firsts_eq.trans hab.firsts_eq
  size_eq := hbc.size_eq.trans hab.size_eq

theorem sameLayout_of_form {work after : Workspace} (h : SameForm work.space after.space)
    (hSize : after.console.size = work.console.size) : SameLayout work after :=
  ⟨h.outlines_eq, h.firsts_eq, hSize⟩

end Workspace

structure Interpreter.KeepsLayout {ι : Type} (interpreter : Interpreter ι) : Prop where
  load : ∀ program interp (work : Workspace),
    work.SameLayout (interpreter.load program (interp, work)).state.2
  step : ∀ interp (work : Workspace), work.SameLayout (interpreter.step (interp, work)).state.2

namespace Player

theorem size_perform (instruction : Instruction) (console : Console) :
    (perform instruction console).size = console.size := by
  cases instruction
  all_goals rfl

theorem size_record (player : Player) (work : Workspace) :
    (player.record work).state.console.size = work.console.size := by
  rw [record]
  split
  · rfl
  · rfl

theorem keepsLayout : interpreter.KeepsLayout where
  load program player work := by
    obtain ⟨hOutlines, hFirsts⟩ := outlines_modifyWindow work.space openFrame
    have hForm := sameForm_load program player work
    exact ⟨hForm.outlines_eq.trans hOutlines, hForm.firsts_eq.trans hFirsts, size_record _ _⟩
  step player work := by
    refine Workspace.sameLayout_of_form (sameForm_step player work) ?_
    change (Player.step (player, work)).state.2.console.size = work.console.size
    rw [Player.step]
    split
    · rfl
    · split
      · rfl
      · rename_i instruction next _
        exact (size_record _ _).trans (size_perform instruction work.console)

end Player

namespace Machine

section Reached
variable {ι : Type} {interpreter : Interpreter ι} {geometry : Geometry} {machine : Machine ι}

/-- The machines that a new one becomes as long as every change of its screen succeeds. Other calls
may fail, and the host may use memory and console in between. -/
inductive Reached (interpreter : Interpreter ι) (geometry : Geometry) : Machine ι → Prop
  | create {interp : ι} {machine : Machine ι} (hCreate : create geometry interp = .ok machine) :
      Reached interpreter geometry machine
  | load {machine : Machine ι} (h : Reached interpreter geometry machine) (program : Program) :
      Reached interpreter geometry (machine.load interpreter program).state
  | step {machine : Machine ι} (h : Reached interpreter geometry machine) :
      Reached interpreter geometry (machine.step interpreter).state
  | dispose {machine : Machine ι} (h : Reached interpreter geometry machine) :
      Reached interpreter geometry (machine.dispose interpreter)
  | use {machine : Machine ι} (h : Reached interpreter geometry machine) {work : Workspace}
      (hSame : machine.work.SameLayout work) :
      Reached interpreter geometry { machine with work := work }
  | setScreen {machine : Machine ι} (h : Reached interpreter geometry machine) {size : PixelSize}
      (hSize : size.InRange) (hOk : (machine.setScreen size).fault = none) :
      Reached interpreter geometry (machine.setScreen size).state

def Measured (geometry : Geometry) (work : Workspace) : Prop :=
  Sized (Geometry.sizeOf { geometry with screen := work.console.size }) work.space

theorem measured_create (hRange : geometry.InRange) {interp : ι}
    (hCreate : Machine.create geometry interp = .ok machine) : Measured geometry machine.work := by
  have h := assembled_create hRange hCreate
  have hLaid : LaidOut machine.work.space := h.laidOut_store
  rw [Measured, h.screen_eq]
  refine ⟨hLaid, ?_⟩
  have hMeasures := congrArg (List.map fun outline => (outline.1, outline.2.2)) h.outlines_eq
  rw [List.map_map, List.map_map] at hMeasures
  exact hMeasures

theorem Measured.fits {work : Workspace} (h : Measured geometry work) :
    Geometry.Fits { geometry with screen := work.console.size } where
  occupied := Sized.occupied h
  total_le := by
    have hTotal := Sized.total_le h
    simp only [AddressSpace.total, Geometry.sizeOf] at hTotal
    simp only [Geometry.total, Geometry.baseOf]
    omega

theorem Measured.of_sameLayout {work after : Workspace} (h : Measured geometry work)
    (hSame : work.SameLayout after) : Measured geometry after := by
  rw [Measured, hSame.size_eq]
  exact Sized.of_outline h hSame.outlines_eq hSame.firsts_eq

theorem sameLayout_prepare (interpreter : Interpreter ι) (machine : Machine ι) :
    machine.work.SameLayout (machine.prepare interpreter).work := by
  rw [work_prepare]
  refine Workspace.sameLayout_of_form (sameForm_clearAll machine.work.store) ?_
  exact Console.size_setScreen _ _

theorem sameLayout_load (hKeeps : interpreter.KeepsLayout) (machine : Machine ι)
    (program : Program) :
    machine.work.SameLayout (machine.load interpreter program).state.work := by
  refine (sameLayout_prepare interpreter machine).trans ?_
  have hLoad := hKeeps.load program (machine.prepare interpreter).interp
    (machine.prepare interpreter).work
  rw [load, takeOver]
  split
  · exact hLoad
  · exact hLoad

theorem sameLayout_step (hKeeps : interpreter.KeepsLayout) (machine : Machine ι) :
    machine.work.SameLayout (machine.step interpreter).state.work := by
  obtain ⟨interp, work, phase, program⟩ := machine
  cases phase with
  | ended => exact .refl work
  | ready =>
    have hStep := hKeeps.step interp work
    rw [step]
    split
    · exact hStep
    · exact hStep

theorem Measured.setScreen (h : Measured geometry machine.work) {size : PixelSize}
    (hSize : size.InRange) (hNew : size ≠ machine.work.console.size) :
    ((machine.setScreen size).fault = none ↔
      Geometry.Fits { geometry with screen := size } ∧
      geometry.runtimeSize + 2 * machine.work.console.size.bitmapBytes + size.textCells +
        geometry.stringSize ≤ addressLimit) ∧
    ((machine.setScreen size).fault = none → Measured geometry (machine.setScreen size).state.work) := by
  have hText := congrArg PageView.size (Console.setScreen_of_ne hNew).2.1
  obtain ⟨hFault, hSized⟩ := Sized.fitScreen_spec h rfl hSize hText
  have hRuntime : 0 < geometry.runtimeSize := Sized.occupied h .runtime
  have hString : 0 < geometry.stringSize := Sized.occupied h .string
  rw [setScreen_of_ne hNew]
  dsimp only
  rw [Option.map_eq_none_iff]
  constructor
  · rw [hFault]
    constructor
    · rintro ⟨⟨hCells, hPixels⟩, hBeside, hLast⟩
      refine ⟨⟨fun kind => ?_, hLast⟩, hBeside⟩
      cases kind
      all_goals assumption
    · rintro ⟨hFits, hBeside⟩
      exact ⟨⟨hFits.occupied .text, hFits.occupied .graph⟩, hBeside, hFits.total_le⟩
  · intro hOk
    rw [Measured, Console.size_setScreen]
    refine (hSized hOk).congr fun kind => ?_
    cases kind
    all_goals simp [Geometry.sizeOf, Function.update]

theorem Reached.measured (hKeeps : interpreter.KeepsLayout) (hRange : geometry.InRange)
    (h : Reached interpreter geometry machine) : Measured geometry machine.work := by
  induction h with
  | create hCreate => exact measured_create hRange hCreate
  | load _ program ih => exact ih.of_sameLayout (sameLayout_load hKeeps _ program)
  | step _ ih => exact ih.of_sameLayout (sameLayout_step hKeeps _)
  | dispose _ ih => exact ih
  | use _ hSame ih => exact ih.of_sameLayout hSame
  | @setScreen machine _ size hSize hOk ih =>
    by_cases hNew : size = machine.work.console.size
    · rw [setScreen_same hNew]
      refine ih.of_sameLayout ⟨rfl, rfl, ?_⟩
      exact (Console.size_setScreen _ _).trans hNew
    · exact (ih.setScreen hSize hNew).2 hOk

theorem exists_create_iff (hRange : geometry.InRange) (interp : ι) :
    (∃ machine, create geometry interp = .ok machine) ↔ geometry.Fits := by
  constructor
  · rintro ⟨machine, hCreate⟩
    exact (assembled_create hRange hCreate).fits
  · intro hFits
    obtain ⟨machine, hCreate, -⟩ := exists_create hRange hFits interp
    exact ⟨machine, hCreate⟩

/-- A machine whose changes of the screen have succeeded so far takes a screen if and only if a new
machine does and the new text has room beside the pictures of the screen that it leaves. A screen
that would fit by itself can so be refused because the one before was larger. -/
theorem resize_of_reached (hKeeps : interpreter.KeepsLayout) (hRange : geometry.InRange)
    (h : Reached interpreter geometry machine) {size : PixelSize} (hSize : size.InRange)
    (interp : ι) :
    let old := machine.work.console.size
    (machine.setScreen size).fault = none ↔
      (∃ fresh, create { geometry with screen := size } interp = .ok fresh) ∧
      (size = old ∨ geometry.runtimeSize + 2 * old.bitmapBytes + size.textCells +
        geometry.stringSize ≤ addressLimit) := by
  intro old
  have hMeasured := h.measured hKeeps hRange
  have hFresh := @exists_create_iff ι { geometry with screen := size }
    ⟨hSize, hRange.runtime_lt, hRange.string_lt⟩ interp
  rw [hFresh]
  by_cases hSame : size = old
  · have hFits := hMeasured.fits
    rw [show machine.work.console.size = size from hSame.symm] at hFits
    rw [setScreen_same hSame]
    exact iff_of_true rfl ⟨hFits, .inl hSame⟩
  · rw [(hMeasured.setScreen hSize hSame).1]
    simp only [hSame, false_or, old]

/-- Memory that a screen of eleven by twenty-five pixels fills to the last address. -/
def filledGeometry : Geometry := ⟨⟨11, 25⟩, 0xffffffa9, 16⟩

/-- The smaller pictures of the other screen would make room for its larger text. -/
theorem resize_of_filled :
    let size : PixelSize := ⟨12, 13⟩
    ∃ machine fresh : Machine Player, create filledGeometry Player.idle = .ok machine ∧
      create { filledGeometry with screen := size } Player.idle = .ok fresh ∧
      (machine.setScreen size).fault ≠ none := by
  intro size
  have hRange : filledGeometry.InRange := ⟨⟨by decide, by decide⟩, by decide, by decide⟩
  have hSize : size.InRange := ⟨by decide, by decide⟩
  have hNewRange : Geometry.InRange { filledGeometry with screen := size } :=
    ⟨hSize, hRange.runtime_lt, hRange.string_lt⟩
  have hOldFits : filledGeometry.Fits := ⟨fun kind => by cases kind <;> decide, by decide⟩
  have hNewFits : Geometry.Fits { filledGeometry with screen := size } :=
    ⟨fun kind => by cases kind <;> decide, by decide⟩
  obtain ⟨machine, hCreate, hConsole⟩ := exists_create hRange hOldFits Player.idle
  obtain ⟨fresh, hFresh, -⟩ := exists_create hNewRange hNewFits Player.idle
  have hScreen : machine.work.console.size = ⟨11, 25⟩ := by
    rw [hConsole]
    rfl
  refine ⟨machine, fresh, hCreate, hFresh, fun hOk => ?_⟩
  obtain ⟨-, hRoom⟩ := (resize_of_reached Player.keepsLayout hRange (.create hCreate) hSize
    Player.idle).mp hOk
  rw [hScreen] at hRoom
  exact absurd hRoom (by decide)

end Reached
end Machine
end Handheld
