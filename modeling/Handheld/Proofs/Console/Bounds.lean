import Handheld.Console.Grid

/-! # Bounds of a grid

Nothing that is written or moved changes the rows, the columns or the number of cells of a grid. A
grid is sound if its page has all of its cells and its cursor stands in it or at most one row
below; a grid without rows or columns counts as having one. Every operation keeps a grid sound.
-/
set_option autoImplicit false
namespace Handheld.Grid

def dims (grid : Grid) : Nat × Nat × Nat := (grid.rows, grid.cols, grid.cells.size)

theorem dims_eq_iff (grid other : Grid) :
    grid.dims = other.dims ↔
      grid.rows = other.rows ∧ grid.cols = other.cols ∧ grid.cells.size = other.cells.size := by
  simp only [dims, Prod.mk.injEq]

variable (grid : Grid)

@[simp] theorem dims_setCell (i : Nat) (value : UInt8) :
    (grid.setCell i value).dims = grid.dims := by
  simp [dims, setCell]

@[simp] theorem dims_setCells (value : UInt8) : (grid.setCells value).dims = grid.dims := by
  simp [dims, setCells]

@[simp] theorem dims_put (value : UInt8) : (grid.put value).dims = grid.dims :=
  grid.dims_setCell _ value

@[simp] theorem dims_fill (value : UInt8) : (grid.fill value).dims = grid.dims :=
  grid.dims_put value

@[simp] theorem dims_moveUp : grid.moveUp.dims = grid.dims := by
  rw [moveUp]
  split
  · rfl
  · simp [dims]

@[simp] theorem dims_settle : grid.settle.dims = grid.dims := by
  rw [settle]
  split
  · exact grid.dims_moveUp
  · rfl

@[simp] theorem dims_nextRow : grid.nextRow.dims = grid.dims := rfl

@[simp] theorem dims_newline : grid.newline.dims = grid.dims := by
  rw [newline, dims_settle, dims_nextRow]

@[simp] theorem dims_wrap : grid.wrap.dims = grid.dims := by
  rw [wrap]
  split
  · rfl
  · rfl

@[simp] theorem dims_makeRoom : grid.makeRoom.dims = grid.dims := by
  rw [makeRoom]
  split
  · rw [dims_newline, dims_put]
  · rfl

@[simp] theorem dims_addWide (lead follower : UInt8) :
    (grid.addWide lead follower).dims = grid.dims := by
  simp only [addWide, dims_wrap, dims_fill, dims_makeRoom]

@[simp] theorem dims_addNarrow (value : UInt8) : (grid.addNarrow value).dims = grid.dims := by
  rw [addNarrow]
  split
  · exact grid.dims_newline
  · split
    · rfl
    · rw [dims_wrap, dims_fill]

@[simp] theorem dims_addChar (code : UInt16) : (grid.addChar code).dims = grid.dims := by
  rw [addChar]
  split
  · rw [dims_addWide, dims_settle]
  · rw [dims_addNarrow, dims_settle]

@[simp] theorem dims_locate (row col : Int) : (grid.locate row col).dims = grid.dims := rfl

@[simp] theorem dims_addBytes (text : List UInt8) : (grid.addBytes text).dims = grid.dims := by
  rw [addBytes]
  induction charCodes text generalizing grid with
  | nil => rfl
  | cons code rest ih => rw [List.foldl_cons, ih, dims_addChar]

theorem rows_eq_of_dims {grid other : Grid} (h : grid.dims = other.dims) :
    grid.rows = other.rows := ((dims_eq_iff grid other).mp h).1

theorem cols_eq_of_dims {grid other : Grid} (h : grid.dims = other.dims) :
    grid.cols = other.cols := ((dims_eq_iff grid other).mp h).2.1

theorem size_eq_of_dims {grid other : Grid} (h : grid.dims = other.dims) :
    grid.cells.size = other.cells.size := ((dims_eq_iff grid other).mp h).2.2

theorem area_le_of_dims {grid other : Grid} (hDims : grid.dims = other.dims)
    (h : other.cols * other.rows ≤ other.cells.size) : grid.cols * grid.rows ≤ grid.cells.size := by
  rw [cols_eq_of_dims hDims, rows_eq_of_dims hDims, size_eq_of_dims hDims]
  exact h

theorem row_fill (value : UInt8) : (grid.fill value).row = grid.row := rfl

/-- The page has the cells of the grid, and the cursor stands in the grid or below its last row. -/
structure Sound (grid : Grid) : Prop where
  row_le : grid.row ≤ max grid.rows 1
  col_lt : grid.col < max grid.cols 1
  area_le : grid.cols * grid.rows ≤ grid.cells.size

/-- No scroll is owed: the cursor stands in the grid. -/
structure Settled (grid : Grid) : Prop extends Sound grid where
  row_lt : grid.row < max grid.rows 1

variable {grid : Grid}

theorem Sound.moveUp (h : Sound grid) : Sound grid.moveUp := by
  have hDims := grid.dims_moveUp
  refine ⟨?_, ?_, area_le_of_dims hDims h.area_le⟩
  · rw [rows_eq_of_dims hDims, Grid.moveUp]
    have hRow := h.row_le
    split
    · exact hRow
    · dsimp only
      omega
  · rw [cols_eq_of_dims hDims, Grid.moveUp]
    have hCol := h.col_lt
    split
    · exact hCol
    · exact hCol

theorem Sound.settle (h : Sound grid) : Settled grid.settle := by
  rw [Grid.settle]
  split
  · rename_i hBelow
    refine ⟨h.moveUp, ?_⟩
    have hRow := h.row_le
    rw [rows_eq_of_dims grid.dims_moveUp, Grid.moveUp]
    split
    · omega
    · dsimp only
      omega
  · rename_i hInside
    exact ⟨h, by omega⟩

theorem Settled.nextRow (h : Settled grid) : Sound grid.nextRow where
  row_le := h.row_lt
  col_lt := Nat.lt_of_lt_of_le Nat.zero_lt_one (Nat.le_max_right _ _)
  area_le := h.area_le

theorem Settled.newline (h : Settled grid) : Settled grid.newline := h.nextRow.settle

theorem sound_wrap (hRow : grid.row < max grid.rows 1)
    (hArea : grid.cols * grid.rows ≤ grid.cells.size) : Sound grid.wrap := by
  rw [Grid.wrap]
  split
  · refine ⟨hRow, ?_, hArea⟩
    exact Nat.lt_of_lt_of_le Nat.zero_lt_one (Nat.le_max_right _ _)
  · rename_i hCol
    refine ⟨Nat.le_of_lt hRow, ?_, hArea⟩
    omega

theorem Settled.setCell (h : Settled grid) (i : Nat) (value : UInt8) :
    Settled (grid.setCell i value) where
  row_le := h.row_le
  col_lt := h.col_lt
  area_le := area_le_of_dims (grid.dims_setCell i value) h.area_le
  row_lt := h.row_lt

theorem Settled.makeRoom (h : Settled grid) : Settled grid.makeRoom := by
  rw [Grid.makeRoom]
  split
  · exact (h.setCell _ 0x20).newline
  · exact h

theorem Settled.addWide (h : Settled grid) (lead follower : UInt8) :
    Sound (grid.addWide lead follower) := by
  have hRoom := h.makeRoom
  have hDims : ((grid.makeRoom.fill lead).fill follower).dims = grid.makeRoom.dims := by
    rw [dims_fill, dims_fill]
  apply sound_wrap
  · rw [row_fill, row_fill, rows_eq_of_dims hDims]
    exact hRoom.row_lt
  · exact area_le_of_dims hDims hRoom.area_le

theorem Settled.addNarrow (h : Settled grid) (value : UInt8) : Sound (grid.addNarrow value) := by
  rw [Grid.addNarrow]
  split
  · exact h.newline.toSound
  · split
    · exact h.toSound
    · apply sound_wrap
      · rw [row_fill, rows_eq_of_dims (grid.dims_fill value)]
        exact h.row_lt
      · exact area_le_of_dims (grid.dims_fill value) h.area_le

theorem Sound.addChar (h : Sound grid) (code : UInt16) : Sound (grid.addChar code) := by
  rw [Grid.addChar]
  split
  · exact h.settle.addWide _ _
  · exact h.settle.addNarrow _

theorem Sound.addBytes (h : Sound grid) (text : List UInt8) : Sound (grid.addBytes text) := by
  rw [Grid.addBytes]
  induction charCodes text generalizing grid with
  | nil => exact h
  | cons code rest ih => exact ih (h.addChar code)

theorem Sound.locate (h : Sound grid) (row col : Int) : Sound (grid.locate row col) := by
  have hRow := h.row_le
  have hCol := h.col_lt
  refine ⟨?_, ?_, h.area_le⟩
  · simp only [Grid.locate]
    split
    · omega
    · exact hRow
  · simp only [Grid.locate]
    split
    · omega
    · exact hCol

end Handheld.Grid
