import Handheld.Proofs.Console.Slices
import Handheld.Proofs.Console.Visible

/-! # Scrolling

A scroll copies the grid onto itself one row further up and clears its last row. The page may be
longer than the grid; what lies behind the grid stays, whatever the font and whoever has written
there.
-/
set_option autoImplicit false
namespace Handheld

namespace Grid
variable {grid : Grid}

theorem rowBytes_moveUp (h : grid.row ≠ 0) (hArea : grid.cols * grid.rows ≤ grid.cells.size)
    {row : Nat} (hRow : row < grid.rows) :
    grid.moveUp.rowBytes row =
      if row + 1 < grid.rows then grid.rowBytes (row + 1) else List.replicate grid.cols 0 := by
  have hRows := rows_eq_of_dims grid.dims_moveUp
  have hCols := cols_eq_of_dims grid.dims_moveUp
  have hCell : ∀ col ∈ List.range grid.cols, grid.moveUp.cell row col =
      if row + 1 < grid.rows then grid.cell (row + 1) col else 0 := by
    intro col hCol
    exact cell_moveUp h hArea hRow (List.mem_range.mp hCol)
  rw [rowBytes_eq (area_le_of_dims grid.dims_moveUp hArea) (by rwa [hRows]), hCols,
    List.map_congr_left hCell]
  by_cases hNext : row + 1 < grid.rows
  · simp only [if_pos hNext]
    exact (rowBytes_eq hArea hNext).symm
  · simp only [if_neg hNext]
    rw [List.map_const', List.length_range]

theorem moveUp_eq (h : grid.row ≠ 0) :
    grid.moveUp =
      { grid with
        cells := grid.moveUp.cells
        row := grid.row - 1
        scrolls := grid.scrolls + 1 } := by
  rw [moveUp, if_neg h]

end Grid

namespace Console

/-- A scroll with the cursor on the first row changes nothing. With the cursor further down every row
becomes the one below it, the last one zero, and the cursor moves along; the bytes behind the grid
are those of before. No slice on the way is out of the page. -/
theorem scrolled_of_actions {size : PixelSize} (hSize : size.InRange) {actions : List Action}
    (hSizes : ∀ size, .setScreen size ∈ actions → size.InRange) :
    ∃ console after,
      actions.foldlM Action.perform? (ofSize size) = some console ∧
      Action.perform? console (.text .scrollUp) = some after ∧
      after = console.scrollUp ∧
      let grid := console.grid
      (grid.row = 0 → after = console) ∧
      (0 < grid.row →
        (∀ row < grid.rows, after.grid.rowBytes row =
          if row + 1 < grid.rows then grid.rowBytes (row + 1) else List.replicate grid.cols 0) ∧
        (∀ i, grid.rows * grid.cols ≤ i → after.grid.cells[i]? = grid.cells[i]?) ∧
        after.grid.cells.size = grid.cells.size ∧
        after = console.withGrid
          { grid with
            cells := after.grid.cells
            row := grid.row - 1
            scrolls := grid.scrolls + 1 }) := by
  have hNew : Ranged (ofSize size) := ⟨sound_ofSize size, hSize⟩
  obtain ⟨hRun, hRanged⟩ := hNew.foldlM_perform? hSizes
  have hScroll := hRanged.sound.perform? hRanged.size (.text .scrollUp)
  have hArea := hRanged.sound.grid.area_le
  refine ⟨_, _, hRun, hScroll, rfl, ?_, ?_⟩
  · intro hFirst
    exact congrArg (withGrid _) (Grid.moveUp_of_row_eq_zero hFirst)
  · intro hBelow
    have hMoved := Nat.ne_of_gt hBelow
    refine ⟨?_, ?_, Grid.size_eq_of_dims (Grid.dims_moveUp _), ?_⟩
    · intro row hRow
      exact Grid.rowBytes_moveUp hMoved hArea hRow
    · intro i hBehind
      rw [Nat.mul_comm] at hBehind
      exact (Grid.within_moveUp _).behind_eq i hBehind
    · exact congrArg (withGrid _) (Grid.moveUp_eq hMoved)

/-- The page of a screen with two rows of three large cells has room for eight cells; memory has
written to the last two. -/
def overhanging : List Action :=
  [.text (.addBytes [0x61, 0x62, 0x0a, 0x63, 0x64]), .setCell 6 0x78, .setCell 7 0x79]

theorem scrolled_of_overhanging :
    (⟨24, 32⟩ : PixelSize).InRange ∧
    (∀ size, .setScreen size ∈ overhanging → size.InRange) ∧
    ∃ console after, overhanging.foldlM Action.perform? (ofSize ⟨24, 32⟩) = some console ∧
      Action.perform? console (.text .scrollUp) = some after ∧
      console.grid.cells = #[0x61, 0x62, 0, 0x63, 0x64, 0, 0x78, 0x79] ∧
      after.grid.rowBytes 0 = [0x63, 0x64, 0] ∧ after.grid.rowBytes 1 = [0, 0, 0] ∧
      after.grid.cells[6]? = some 0x78 ∧ after.grid.cells[7]? = some 0x79 ∧
      (after.grid.row, after.grid.col, after.grid.scrolls) = (0, 2, 1) := by
  have hSize : (⟨24, 32⟩ : PixelSize).InRange := ⟨by decide, by decide⟩
  have hSizes : ∀ size, .setScreen size ∈ overhanging → size.InRange := by
    simp [overhanging]
  obtain ⟨console, after, hRun, hScroll, -, -, hBelow⟩ := scrolled_of_actions hSize hSizes
  have hConsole : console = overhanging.foldl Action.apply (ofSize ⟨24, 32⟩) := by
    have hPlain := (Ranged.foldlM_perform? ⟨sound_ofSize ⟨24, 32⟩, hSize⟩ hSizes).1
    exact Option.some_inj.mp (hRun.symm.trans hPlain)
  have hCells : console.grid.cells = #[0x61, 0x62, 0, 0x63, 0x64, 0, 0x78, 0x79] := by
    rw [hConsole]
    decide +kernel
  have hPlaces : (console.grid.rows, console.grid.cols, console.grid.row, console.grid.col,
      console.grid.scrolls) = (2, 3, 1, 2, 0) := by
    rw [hConsole]
    decide +kernel
  simp only [Prod.mk.injEq] at hPlaces
  obtain ⟨hRows, hCols, hRow, hCol, hScrolls⟩ := hPlaces
  have hGrid : console.grid.rows * console.grid.cols = 6 := by simp [hRows, hCols]
  obtain ⟨hMoved, hBehind, -, hRest⟩ := hBelow (by omega)
  refine ⟨hSize, hSizes, console, after, hRun, hScroll, hCells, ?_, ?_, ?_, ?_, ?_⟩
  · rw [hMoved 0 (by omega), if_pos (by omega), Grid.rowBytes, hCells, hCols]
    decide
  · rw [hMoved 1 (by omega), if_neg (by omega), hCols]
    rfl
  · rw [hBehind 6 (by omega), hCells]
    rfl
  · rw [hBehind 7 (by omega), hCells]
    rfl
  · rw [hRest]
    simp [withGrid, hRow, hCol, hScrolls]

end Console
end Handheld
