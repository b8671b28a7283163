import Handheld.Proofs.Player.Aged
import Handheld.Proofs.Player.Calls

/-! # Nothing stays of a program

Loading a program leads to the machine that a new one of the same geometry would be after loading
it, only of another age. Whatever was played before, the programs played from then on cannot tell.
-/
set_option autoImplicit false
namespace Handheld
open Workspace

variable {geometry : Geometry} {contents other : Contents} {work : Workspace}

namespace Contents

theorem space_congr (hBytes : ∀ kind, kind ≠ .text → contents.bytes kind = other.bytes kind)
    (hText : contents.text = other.text) (hWindow : contents.window = other.window) :
    contents.space = other.space := by
  have hRegion : contents.region = other.region := by
    funext kind
    rw [region, region, hText, hWindow]
    by_cases hKind : kind = .text
    · rw [if_pos hKind, if_pos hKind]
    · rw [if_neg hKind, if_neg hKind, hBytes kind hKind]
  rw [space, space, regions, regions, hRegion]

theorem space_renumber (contents : Contents) (serial : Nat) :
    contents.space.renumber serial =
      { contents with text := ⟨serial, contents.text.size⟩ }.space := rfl

def opened (geometry : Geometry) : Contents :=
  { blank geometry ⟨0, geometry.screen.textCells⟩ with window := ⟨0, Player.frameSize⟩ }

end Contents

namespace Console

theorem setScreen_setCells {console : Console} (h : console.Sound) :
    ((Action.setCells 0).apply console).setScreen console.size =
      (Console.ofSize console.size).aged console.grid.scrolls console.retired := by
  have hCells : (console.grid.cells.map fun _ => (0 : UInt8)).map (fun _ => (0 : UInt8)) =
      Array.replicate console.size.textCells 0 := by
    rw [Array.map_map, ← h.size_eq]
    exact Array.map_const' ..
  have hSame : console.size = ((Action.setCells 0).apply console).size := rfl
  rw [setScreen, if_pos hSame]
  simp only [Action.apply, withGrid, Grid.setCells, setFont, hCells, ofSize, Grid.blank, aged,
    Grid.aged, Nat.zero_add]

end Console

namespace Workspace

theorem Assembled.live (h : Assembled geometry contents work) : work.store.Live := by
  intro region hRegion view hView
  rw [store, h.space_eq] at hRegion
  have hMember : region.unplaced ∈ contents.regions := by
    rw [← Contents.map_unplaced_space]
    exact List.mem_map_of_mem hRegion
  obtain ⟨kind, -, hKind⟩ := List.mem_map.mp hMember
  have hBacking : (contents.region kind).backing = .page view :=
    (congrArg Region.backing hKind).trans hView
  rw [Contents.region] at hBacking
  split at hBacking
  · cases hBacking
    rw [h.text_eq]
    rfl
  · cases hBacking

theorem Assembled.space_opened (h : Assembled geometry contents work)
    (hStart : contents.window.start = 0) :
    contents.zeroed.space.modifyWindow
        (fun window => { window with stop := window.start + Player.frameSize }) =
      (Contents.opened geometry).space.renumber work.console.retired.size := by
  have hLaid : contents.zeroed.space.LaidOut := h.clearAll.laidOut
  rw [Contents.modifyWindow_space hLaid, Contents.space_renumber]
  apply Contents.space_congr
  · intro kind hKind
    have hSize : (contents.bytes kind).size = geometry.sizeOf kind := by
      have hRegion := h.measures kind
      rwa [Region.size, Contents.region, if_neg hKind] at hRegion
    calc contents.zeroed.bytes kind
        = Array.replicate (contents.bytes kind).size 0 := Array.map_const' ..
      _ = Array.replicate (geometry.sizeOf kind) 0 := by rw [hSize]
  · have hCells : work.console.grid.cells.size = geometry.screen.textCells := by
      rw [h.sound.size_eq, h.screen_eq]
    exact h.text_eq.trans (congrArg (PageView.mk _) hCells)
  · change Window.mk contents.window.start (contents.window.start + Player.frameSize) = _
    rw [hStart]
    rfl

def opened (geometry : Geometry) : Workspace :=
  ⟨(Contents.opened geometry).space, Console.ofSize geometry.screen⟩

theorem assembled_opened (hFits : geometry.Fits) :
    Assembled geometry (Contents.opened geometry) (opened geometry) where
  space_eq := rfl
  laidOut := Contents.laidOut_space (Contents.measures_blank rfl) hFits
  measures := Contents.measures_blank rfl
  screen_eq := rfl
  text_eq := congrArg (PageView.mk 0) Array.size_replicate.symm
  sound := Console.sound_ofSize geometry.screen

end Workspace

namespace Machine
variable {machine : Machine Player}

theorem WellFormed.live (h : WellFormed geometry machine) : machine.work.store.Live := by
  obtain ⟨contents, -, hAssembled⟩ := h
  exact hAssembled.live

def opened (geometry : Geometry) (program : Program) : Machine Player :=
  let player : Player := ⟨program.bytes, 0, 0, program.bytes.isEmpty⟩
  ⟨player, (player.record (Workspace.opened geometry)).state,
    phaseOf Player.interpreter player, some program.name⟩

/-- Loading forgets everything but the age of the machine. -/
theorem load_eq_opened (h : Assembled geometry contents machine.work)
    (hStart : contents.window.start = 0) (program : Program) :
    machine.load Player.interpreter program =
      .done ((opened geometry program).aged machine.work.console.grid.scrolls
        machine.work.console.retired) := by
  have hConsole := Console.setScreen_setCells h.sound
  rw [h.screen_eq] at hConsole
  have hWork : (machine.prepare Player.interpreter).work = ⟨contents.zeroed.space,
      (Console.ofSize geometry.screen).aged machine.work.console.grid.scrolls
        machine.work.console.retired⟩ := by
    rw [work_prepare, h.clearAll_eq, ← hConsole]
    exact congrArg (fun size => Workspace.mk _ (Console.setScreen _ size)) h.screen_eq
  have hRecord := Player.record_aged machine.work.console.grid.scrolls machine.work.console.retired
    (assembled_opened h.fits).live ⟨program.bytes, 0, 0, program.bytes.isEmpty⟩
  have hDone : ((⟨program.bytes, 0, 0, program.bytes.isEmpty⟩ : Player).record
      (Workspace.opened geometry)).fault = none := by
    obtain ⟨_, _, hDone⟩ := Player.record_eq (assembled_opened h.fits) rfl
      ⟨program.bytes, 0, 0, program.bytes.isEmpty⟩
    rw [hDone]
    rfl
  rw [load]
  cases hPrepare : machine.prepare Player.interpreter with
  | mk interp work phase old =>
    rw [hPrepare] at hWork
    dsimp only at hWork
    have hLoad : Player.interpreter.load program (interp, work) =
        ((⟨program.bytes, 0, 0, program.bytes.isEmpty⟩ : Player).record
          ((Workspace.opened geometry).aged machine.work.console.grid.scrolls
            machine.work.console.retired)).map
          fun work => (⟨program.bytes, 0, 0, program.bytes.isEmpty⟩, work) := by
      rw [hWork, Workspace.aged, Workspace.opened, ← h.space_opened hStart]
      rfl
    rw [takeOver, hLoad, hRecord]
    dsimp only [Attempt.map]
    rw [hDone]
    rfl

theorem after_steps_aged (h : WellFormed geometry machine) (lead : Nat)
    (retired : Array (Array UInt8)) (count : Nat) :
    WellFormed geometry (machine.after (.replicate count .step)) ∧
      (machine.aged lead retired).after (.replicate count .step) =
        (machine.after (.replicate count .step)).aged lead retired := by
  induction count generalizing machine with
  | zero => exact ⟨h, rfl⟩
  | succ count ih =>
    obtain ⟨hLast, hSame⟩ := ih (step_spec h).1
    have hStep : (Call.step.run (machine.aged lead retired)).state =
        (Call.step.run machine).state.aged lead retired :=
      congrArg Attempt.state (step_aged lead retired h.live)
    refine ⟨hLast, ?_⟩
    rw [List.replicate_succ, after, List.foldl_cons, hStep]
    exact hSame

/-- What a program and its user can see of two machines is the same. Only the scroll counter of
the one is ahead. -/
structure Agree (lead : Nat) (used fresh : Machine Player) : Prop where
  interp_eq : used.interp = fresh.interp
  phase_eq : used.phase = fresh.phase
  program_eq : used.program = fresh.program
  outlines_eq : used.work.space.regions.map (fun region => (region.kind, region.base, region.size)) =
    fresh.work.space.regions.map fun region => (region.kind, region.base, region.size)
  readByte_eq : ∀ addr, used.work.store.readByte addr = fresh.work.store.readByte addr
  window?_eq : used.work.space.window? = fresh.work.space.window?
  size_eq : used.work.console.size = fresh.work.console.size
  font_eq : used.work.console.font = fresh.work.console.font
  pending_eq : used.work.console.pending = fresh.work.console.pending
  rows_eq : used.work.console.grid.rows = fresh.work.console.grid.rows
  cols_eq : used.work.console.grid.cols = fresh.work.console.grid.cols
  cells_eq : used.work.console.grid.cells = fresh.work.console.grid.cells
  row_eq : used.work.console.grid.row = fresh.work.console.grid.row
  col_eq : used.work.console.grid.col = fresh.work.console.grid.col
  scrolls_eq : used.work.console.grid.scrolls = fresh.work.console.grid.scrolls + lead

theorem agree_aged (h : machine.work.store.Live) (lead : Nat) (retired : Array (Array UInt8)) :
    Agree lead (machine.aged lead retired) machine where
  interp_eq := rfl
  phase_eq := rfl
  program_eq := rfl
  outlines_eq := machine.work.space.outlines_renumber retired.size
  readByte_eq := Store.readByte_aged retired h
  window?_eq := machine.work.space.window?_renumber retired.size
  size_eq := rfl
  font_eq := rfl
  pending_eq := rfl
  rows_eq := rfl
  cols_eq := rfl
  cells_eq := rfl
  row_eq := rfl
  col_eq := rfl
  scrolls_eq := rfl

theorem aged_aged (machine : Machine Player) (lead more : Nat)
    (retired others : Array (Array UInt8)) :
    (machine.aged lead retired).aged more others = machine.aged (lead + more) others := by
  have hRegions : (machine.work.space.regions.map (Region.renumber retired.size)).map
        (Region.renumber others.size) =
      machine.work.space.regions.map (Region.renumber others.size) := by
    rw [List.map_map]
    refine List.map_congr_left fun region _ => ?_
    obtain ⟨kind, base, backing, window⟩ := region
    cases backing
    all_goals rfl
  simp only [aged, Workspace.aged, AddressSpace.renumber, Console.aged, Grid.aged, hRegions,
    Nat.add_assoc]

theorem inRange_foldl_screen {calls : List Call} (hCalls : ∀ call ∈ calls, call.InRange)
    {screen : PixelSize} (hScreen : screen.InRange) : (calls.foldl Call.screen screen).InRange := by
  induction calls generalizing screen with
  | nil => exact hScreen
  | cons call rest ih =>
    rw [List.forall_mem_cons] at hCalls
    refine ih hCalls.2 ?_
    cases call with
    | setScreen size => exact hCalls.1
    | load | step | dispose => exact hScreen

/-- A program that is loaded after any calls, of which those that set the screen succeed, runs as on
a new machine of the same memory sizes and the current screen. -/
theorem forgetting_of_calls (hRange : geometry.InRange) {machine : Machine Player}
    (hCreate : create geometry Player.idle = .ok machine) {calls : List Call}
    (hCalls : ∀ call ∈ calls, call.InRange) (hFit : ScreensFit machine calls) :
    let used := machine.after calls
    ∃ fresh, create { geometry with screen := used.work.console.size } Player.idle = .ok fresh ∧
    ∃ lead, ∀ program,
      ((Call.load program).run used).fault = ((Call.load program).run fresh).fault ∧
      ∀ count,
        let old := used.after (.load program :: .replicate count .step)
        let new := fresh.after (.load program :: .replicate count .step)
        Agree lead old new ∧ (Call.step.run old).fault = (Call.step.run new).fault := by
  intro used
  have hUsed := (wellFormed_create hRange hCreate).after hCalls hFit
  have hScreen : used.work.console.size = calls.foldl Call.screen geometry.screen := hUsed.size_eq
  rw [hScreen]
  obtain ⟨contents, hStart, hAssembled⟩ := hUsed
  have hNewRange : Geometry.InRange
      { geometry with screen := calls.foldl Call.screen geometry.screen } :=
    ⟨inRange_foldl_screen hCalls hRange.screen, hRange.runtime_lt, hRange.string_lt⟩
  obtain ⟨fresh, hFresh, hConsole⟩ := exists_create hNewRange hAssembled.fits Player.idle
  refine ⟨fresh, hFresh, used.work.console.grid.scrolls, fun program => ?_⟩
  have hOld := load_eq_opened hAssembled hStart program
  have hNew := load_eq_opened (assembled_create hNewRange hFresh) rfl program
  rw [hConsole] at hNew
  have hNewFormed : WellFormed _ ((Call.load program).run fresh).state :=
    (load_spec (wellFormed_create hNewRange hFresh) program).1
  have hSame : ((Call.load program).run used).state =
      ((Call.load program).run fresh).state.aged used.work.console.grid.scrolls
        used.work.console.retired := by
    have hOldState := congrArg Attempt.state hOld
    have hNewState := congrArg Attempt.state hNew
    refine hOldState.trans ?_
    refine Eq.trans ?_ (congrArg (aged _ _) hNewState).symm
    exact ((aged_aged _ 0 _ #[] _).trans (congrArg (aged · _ _) (Nat.zero_add _))).symm
  constructor
  · exact (congrArg Attempt.fault hOld).trans (congrArg Attempt.fault hNew).symm
  · intro count old new
    obtain ⟨hLast, hSteps⟩ := after_steps_aged hNewFormed used.work.console.grid.scrolls
      used.work.console.retired count
    have hOldEq : old = new.aged used.work.console.grid.scrolls used.work.console.retired := by
      rw [← hSame] at hSteps
      exact hSteps
    have hNewLast : WellFormed _ new := hLast
    have hStep := congrArg Attempt.fault (step_aged used.work.console.grid.scrolls
      used.work.console.retired hNewLast.live)
    rw [hOldEq]
    exact ⟨agree_aged hNewLast.live _ _, hStep⟩

/-- A program changes the font, prints until the text scrolls and comes to an illegal byte, and
then the screen changes under it. -/
def worn : List Call :=
  [.load ⟨"old", #[0x02, 0x01, 0x61, 0x61, 0x61, 0x10]⟩, .step, .step, .step, .step, .step,
    .setScreen ⟨24, 32⟩]

theorem forgetting_of_worn :
    let program : Program := ⟨"new", #[0x62, 0x0a, 0x0a, 0x63]⟩
    ∃ machine fresh lead, create narrowGeometry Player.idle = .ok machine ∧ ScreensFit machine worn ∧
      (machine.after worn).work.console.grid.scrolls = 1 ∧
      (machine.after worn).work.console.retired.size = 1 ∧
      create ⟨⟨24, 32⟩, 3, 1⟩ Player.idle = .ok fresh ∧
      Agree lead ((machine.after worn).after (.load program :: .replicate 3 .step))
        (fresh.after (.load program :: .replicate 3 .step)) := by
  intro program
  have hRange : narrowGeometry.InRange := ⟨⟨by decide, by decide⟩, by decide, by decide⟩
  have hCalls : ∀ call ∈ worn, call.InRange := by
    simp only [worn, List.forall_mem_cons, Call.InRange, List.not_mem_nil, false_implies,
      implies_true, and_true, true_and]
    exact ⟨by decide, by decide⟩
  have hRun : ∃ machine, create narrowGeometry Player.idle = .ok machine ∧
      ScreensFit machine worn ∧ (machine.after worn).work.console.grid.scrolls = 1 ∧
      (machine.after worn).work.console.retired.size = 1 ∧
      (machine.after worn).work.console.size = ⟨24, 32⟩ := by
    refine ⟨_, rfl, ⟨?_, ?_, ?_, ?_, ?_, ?_, ?_, trivial⟩, ?_, ?_, ?_⟩
    iterate 6
      · intro _ hOther
        cases hOther
    · intro _ _
      decide +kernel
    · decide +kernel
    · decide +kernel
    · decide +kernel
  obtain ⟨machine, hCreate, hFit, hScrolls, hRetired, hScreen⟩ := hRun
  obtain ⟨fresh, hFresh, lead, hSame⟩ := forgetting_of_calls hRange hCreate hCalls hFit
  rw [hScreen] at hFresh
  exact ⟨machine, fresh, lead, hCreate, hFit, hScrolls, hRetired, hFresh,
    ((hSame program).2 3).1⟩

end Machine
end Handheld
