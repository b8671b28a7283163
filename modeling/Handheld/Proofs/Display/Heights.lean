import Handheld.Proofs.Display.Lines
import Handheld.Proofs.Player.Resizing

/-! # Heights of rows

Where on the screen the rows of a console are drawn. Memory has room for screens of six or seven
pixels in width that are so tall that their last rows have no coordinate. On every other screen that
a machine can be made for, each row is drawn below the one before it.
-/
set_option autoImplicit false
namespace Handheld
open AddressSpace

namespace Font

/-- The least height of a screen whose last row has no coordinate. -/
def unreached : Font → Nat
  | big => 0x80000010
  | small => 0x8000000f

variable {font : Font} {size : PixelSize} {row : Nat}

theorem heightLimit_le_unreached (font : Font) : heightLimit ≤ font.unreached := by
  cases font
  all_goals decide

theorem top_lt_top {other : Nat} (h : row < other) : font.top row < font.top other := by
  cases font
  all_goals
    simp only [top, margin, cellHeight]
    omega

theorem top_lt_height (h : row < font.rows size) : font.top row < size.height := by
  cases font
  all_goals
    simp only [rows, top, margin, cellHeight] at *
    omega

theorem top_lt_heightLimit (hRow : row < font.rows size) (hHeight : size.height < font.unreached) :
    font.top row < heightLimit := by
  cases font
  all_goals
    simp only [rows, top, margin, cellHeight, unreached, heightLimit] at *
    omega

theorem exists_row_of_unreached (h : font.unreached ≤ size.height) :
    ∃ row < font.rows size, 8 ≤ row ∧ heightLimit ≤ font.top row := by
  refine ⟨font.rows size - 1, ?_⟩
  cases font
  all_goals
    simp only [rows, top, margin, cellHeight, unreached, heightLimit] at *
    omega

end Font

def DrawCall.height? : DrawCall → Option Int
  | .line _ y _ => some y
  | _ => none

@[simp] theorem DrawCall.height?_mode (mode : DrawMode) :
    (DrawCall.mode mode).height? = none := rfl

@[simp] theorem DrawCall.height?_rect (x y : Int) (size : PixelSize) :
    (DrawCall.rect x y size).height? = none := rfl

@[simp] theorem DrawCall.height?_changed : DrawCall.changed.height? = none := rfl

namespace Console

def heights (console : Console) (mask : UInt8) : List Int :=
  (console.refreshCalls mask).filterMap DrawCall.height?

def drawnRows (console : Console) (mask : UInt8) : List Nat :=
  if mask = RefreshMask.nothing then []
  else (List.range console.grid.rows).filter (RefreshMask.draws mask)

variable {console : Console} {mask : UInt8} {row : Nat}

theorem heights_eq (console : Console) (mask : UInt8) :
    console.heights mask = (console.drawnRows mask).map (rowTop console.font) := by
  have hText : DrawCall.height? ∘ console.drawRow = some ∘ rowTop console.font := rfl
  have hRows : (console.drawRows mask).filterMap DrawCall.height? =
      ((List.range console.grid.rows).filter (RefreshMask.draws mask)).map
        (rowTop console.font) := by
    rw [drawRows, List.filterMap_map, hText, List.filterMap_eq_map]
  rw [heights, refreshCalls, drawnRows]
  split
  · rfl
  · split
    · simp [List.filterMap_cons, hRows]
    · simp [List.filterMap_cons, hRows]

theorem mem_drawnRows_iff :
    row ∈ console.drawnRows mask ↔
      mask ≠ RefreshMask.nothing ∧ row < console.grid.rows ∧ RefreshMask.draws mask row = true := by
  rw [drawnRows]
  split
  · simp [*]
  · simp [*]

theorem pairwise_drawnRows (console : Console) (mask : UInt8) :
    (console.drawnRows mask).Pairwise (· < ·) := by
  rw [drawnRows]
  split
  · exact .nil
  · exact List.pairwise_lt_range.filter _

theorem Sound.mem_rows (h : console.Sound) (hRow : row ∈ console.drawnRows mask) :
    row < console.font.rows console.size := by
  rw [← h.rows_eq]
  exact (mem_drawnRows_iff.mp hRow).2.1

theorem Sound.heights_eq_tops (h : console.Sound)
    (hHeight : console.size.height < console.font.unreached) (mask : UInt8) :
    console.heights mask = (console.drawnRows mask).map console.font.top := by
  rw [heights_eq]
  refine List.map_congr_left fun row hRow => ?_
  have hTop := Font.top_lt_heightLimit (h.mem_rows hRow) hHeight
  have hWord : (heightLimit : Int) < 0x100000000 := by decide
  rw [rowTop_eq (Int.lt_trans hTop hWord), if_pos hTop]

theorem Sound.exists_neg_height (h : console.Sound) (hHeight : console.size.height < 0x100000000)
    (hTall : console.font.unreached ≤ console.size.height) (hMask : mask ≠ RefreshMask.nothing) :
    ∃ y ∈ console.heights mask, y < 0 := by
  obtain ⟨row, hRow, hLate, hTop⟩ := Font.exists_row_of_unreached hTall
  have hLast := Font.top_lt_height hRow
  have hDrawn : row ∈ console.drawnRows mask := by
    rw [mem_drawnRows_iff, h.rows_eq]
    exact ⟨hMask, hRow, by simp [RefreshMask.draws, hLate]⟩
  rw [heights_eq]
  refine ⟨_, List.mem_map_of_mem hDrawn, ?_⟩
  rw [rowTop_eq (by omega), if_neg (by omega)]
  omega

end Console

theorem Geometry.Fits.height_lt {geometry : Geometry} (h : geometry.Fits)
    (hWidth : 8 ≤ geometry.screen.width) : geometry.screen.height < heightLimit := by
  have hTotal := h.total_le
  have hRuntime := h.occupied .runtime
  have hArea := Nat.mul_le_mul_right geometry.screen.height hWidth
  simp only [Geometry.total, Geometry.baseOf, Geometry.sizeOf, PixelSize.bitmapBytes, addressLimit,
    heightLimit] at *
  omega

/-- On a screen of a machine the rows are drawn at increasing heights that are not negative, except
where it is six or seven pixels wide and so tall that the last row has no coordinate: that row is
drawn whatever the mask, at a negative height. -/
theorem heights_of_screen {ι : Type} {geometry : Geometry} (hRange : geometry.InRange) {interp : ι}
    {machine : Machine ι} (hCreate : Machine.create geometry interp = .ok machine)
    {console : Console} (hReachable : Console.Reachable console)
    (hSize : console.size = geometry.screen) (mask : UInt8) :
    let font := console.font
    let heights := console.heights mask
    heights = (console.drawnRows mask).map (fun row =>
      if font.top row < heightLimit then font.top row else font.top row - 0x100000000) ∧
    (8 ≤ geometry.screen.width → geometry.screen.height < font.unreached) ∧
    (geometry.screen.height < font.unreached →
      heights = (console.drawnRows mask).map font.top ∧
      (∀ y ∈ heights, 0 ≤ y ∧ y < heightLimit) ∧ heights.Pairwise (· < ·)) ∧
    (font.unreached ≤ geometry.screen.height → mask ≠ RefreshMask.nothing →
      ∃ y ∈ heights, y < 0) := by
  intro font heights
  have hSound := hReachable.sound
  have hHeight : console.size.height < 0x100000000 := by
    rw [hSize]
    exact hRange.screen.height_lt
  rw [← hSize]
  refine ⟨?_, fun hWidth => ?_, fun hReached => ?_, hSound.exists_neg_height hHeight⟩
  · rw [show heights = _ from Console.heights_eq console mask]
    refine List.map_congr_left fun row hRow => Console.rowTop_eq ?_
    have hTop := Font.top_lt_height (hSound.mem_rows hRow)
    omega
  · have hFits := (Machine.exists_create_iff hRange interp).mp ⟨machine, hCreate⟩
    have hLow := hFits.height_lt (hSize ▸ hWidth)
    rw [hSize]
    exact Nat.lt_of_lt_of_le hLow font.heightLimit_le_unreached
  · have hTops : heights = (console.drawnRows mask).map font.top :=
      hSound.heights_eq_tops hReached mask
    refine ⟨hTops, ?_, ?_⟩
    · rw [hTops, List.forall_mem_map]
      intro row hRow
      exact ⟨font.top_nonneg row, Font.top_lt_heightLimit (hSound.mem_rows hRow) hReached⟩
    · rw [hTops, List.pairwise_map]
      exact (console.pairwise_drawnRows mask).imp Font.top_lt_top

/-- A screen with two more rows of the big font than there are coordinates for. -/
def tallGeometry : Geometry := ⟨⟨6, 0x80000020⟩, 1, 1⟩

/-- In both fonts every session draws the last row above the upper edge. -/
theorem heights_of_tallGeometry :
    ∃ machine : Machine Player, Machine.create tallGeometry Player.idle = .ok machine ∧
      ∀ font mask, mask ≠ RefreshMask.nothing →
        ∃ y ∈ (machine.work.console.setFont font).heights mask, y < 0 := by
  have hRange : tallGeometry.InRange := ⟨⟨by decide, by decide⟩, by decide, by decide⟩
  have hFits : tallGeometry.Fits := ⟨fun kind => by cases kind <;> decide, by decide⟩
  obtain ⟨machine, hCreate, hConsole⟩ := Machine.exists_create hRange hFits Player.idle
  refine ⟨machine, hCreate, fun font mask hMask => ?_⟩
  have hReachable : Console.Reachable (machine.work.console.setFont font) := by
    rw [hConsole]
    exact .act (.ofSize _) (.setFont font)
  have hSize : (machine.work.console.setFont font).size = tallGeometry.screen := by
    rw [hConsole]
    rfl
  obtain ⟨-, -, -, hTall⟩ := heights_of_screen hRange hCreate hReachable hSize mask
  have hUnreached : font.unreached ≤ tallGeometry.screen.height := by
    cases font
    all_goals decide
  exact hTall hUnreached hMask

end Handheld
