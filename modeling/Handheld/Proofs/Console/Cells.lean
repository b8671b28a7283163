import Handheld.Proofs.Console.Bounds

/-! # Cells and lines of a grid

What each operation does to single cells, to the rows made of them, and to the line that the
cursor is on when lines that were scrolled away still count.
-/
set_option autoImplicit false
namespace Handheld.Grid

/-- The byte in a row and a column, zero where the page has no such cell. -/
def cell (grid : Grid) (row col : Nat) : UInt8 := grid.cells.getD (grid.cols * row + col) 0

theorem place_inj {cols row row' col col' : Nat} (hCol : col < cols) (hCol' : col' < cols) :
    cols * row + col = cols * row' + col' ↔ row = row' ∧ col = col' := by
  constructor
  · intro h
    have hPos : 0 < cols := by omega
    have hRow := congrArg (· / cols) h
    simp only [Nat.mul_add_div hPos, Nat.div_eq_of_lt hCol, Nat.div_eq_of_lt hCol',
      Nat.add_zero] at hRow
    subst hRow
    omega
  · rintro ⟨rfl, rfl⟩
    rfl

theorem place_lt {cols rows row col : Nat} (hRow : row < rows) (hCol : col < cols) :
    cols * row + col < cols * rows := by
  have hNext : cols * (row + 1) ≤ cols * rows := Nat.mul_le_mul_left cols hRow
  rw [Nat.mul_succ] at hNext
  omega

variable {grid : Grid}

theorem rowBytes_eq (hArea : grid.cols * grid.rows ≤ grid.cells.size) {row : Nat}
    (hRow : row < grid.rows) :
    grid.rowBytes row = (List.range grid.cols).map (grid.cell row) := by
  have hNext : grid.cols * (row + 1) ≤ grid.cols * grid.rows := Nat.mul_le_mul_left _ hRow
  rw [Nat.mul_succ] at hNext
  apply List.ext_getElem
  · simp [rowBytes, Nat.mul_comm row]
    omega
  · intro i hLeft hRight
    simp only [List.length_map, List.length_range] at hRight
    simp only [rowBytes, Array.getElem_toList, Array.getElem_extract, List.getElem_map,
      List.getElem_range, cell, Nat.mul_comm row]
    rw [Array.getD_eq_getD_getElem?, Array.getElem?_eq_getElem (by omega), Option.getD_some]

theorem cell_setCell {i : Nat} (hi : i < grid.cells.size) (value : UInt8) (row col : Nat) :
    (grid.setCell i value).cell row col =
      if i = grid.cols * row + col then value else grid.cell row col := by
  simp only [cell, setCell, Array.getD_eq_getD_getElem?, Array.getElem?_setIfInBounds, hi, if_true]
  split
  · rfl
  · rfl

theorem cell_put (hRow : grid.row < grid.rows) (hCol : grid.col < grid.cols)
    (hArea : grid.cols * grid.rows ≤ grid.cells.size) (value : UInt8) (row : Nat) {col : Nat}
    (h : col < grid.cols) :
    (grid.put value).cell row col =
      if row = grid.row ∧ col = grid.col then value else grid.cell row col := by
  have hPlace := place_lt hRow hCol
  rw [put, cell_setCell (by omega)]
  by_cases hHere : row = grid.row ∧ col = grid.col
  · obtain ⟨rfl, rfl⟩ := hHere
    simp
  · rw [if_neg hHere, if_neg]
    intro hSame
    obtain ⟨hRow', hCol'⟩ := (place_inj hCol h).mp hSame
    exact hHere ⟨hRow'.symm, hCol'.symm⟩

theorem moveUp_of_row_eq_zero (h : grid.row = 0) : grid.moveUp = grid := by
  rw [moveUp, if_pos h]

theorem row_moveUp (h : grid.row ≠ 0) : grid.moveUp.row = grid.row - 1 := by
  rw [moveUp, if_neg h]

theorem col_moveUp : grid.moveUp.col = grid.col := by
  rw [moveUp]
  split
  · rfl
  · rfl

theorem scrolls_moveUp (h : grid.row ≠ 0) : grid.moveUp.scrolls = grid.scrolls + 1 := by
  rw [moveUp, if_neg h]

theorem cell_moveUp (h : grid.row ≠ 0) (hArea : grid.cols * grid.rows ≤ grid.cells.size)
    {row col : Nat} (hRow : row < grid.rows) (hCol : col < grid.cols) :
    grid.moveUp.cell row col = if row + 1 < grid.rows then grid.cell (row + 1) col else 0 := by
  have hShown : grid.shown = grid.cols * grid.rows := Nat.min_eq_left hArea
  have hPlace := place_lt hRow hCol
  have hKept : grid.cols * row + col < grid.shown - grid.cols ↔ row + 1 < grid.rows := by
    rw [hShown]
    constructor
    · intro hLess
      have hNext : grid.cols * row < grid.cols * (grid.rows - 1) := by
        rw [Nat.mul_sub_one]
        omega
      have := Nat.lt_of_mul_lt_mul_left hNext
      omega
    · intro hLess
      have := place_lt hLess hCol
      rw [Nat.mul_succ] at this
      omega
  rw [cell, cols_eq_of_dims grid.dims_moveUp, moveUp, if_neg h]
  simp only [Array.getD_eq_getD_getElem?]
  rw [Array.getElem?_eq_getElem (by simp; omega)]
  simp only [Array.getElem_mapIdx, hKept, Option.getD_some]
  split
  · rename_i hLess
    have hBack : grid.shown - (grid.shown - grid.cols) = grid.cols := by
      have := place_lt hLess hCol
      rw [Nat.mul_succ] at this
      omega
    rw [hBack, cell, Nat.mul_succ, Array.getD_eq_getD_getElem?]
    congr 2
    omega
  · rw [if_pos (by omega)]

/-- The line of the cursor, counted from before all scrolls. -/
def line (grid : Grid) : Nat := grid.scrolls + grid.row

theorem line_moveUp : grid.moveUp.line = grid.line := by
  by_cases h : grid.row = 0
  · rw [moveUp_of_row_eq_zero h]
  · rw [line, scrolls_moveUp h, row_moveUp h, line]
    omega

theorem line_settle : grid.settle.line = grid.line := by
  rw [settle]
  split
  · exact line_moveUp
  · rfl

theorem line_newline : grid.newline.line = grid.line + 1 := line_settle

theorem line_fill (value : UInt8) : (grid.fill value).line = grid.line := rfl

theorem line_le_wrap : grid.line ≤ grid.wrap.line := by
  rw [wrap]
  split
  · exact Nat.le_succ _
  · exact Nat.le_refl _

theorem line_wrap_of_full (h : grid.cols ≤ grid.col) : grid.wrap.line = grid.line + 1 := by
  rw [wrap, if_pos h]
  rfl

theorem scrolls_le_moveUp : grid.scrolls ≤ grid.moveUp.scrolls := by
  by_cases h : grid.row = 0
  · exact Nat.le_of_eq (congrArg scrolls (moveUp_of_row_eq_zero h).symm)
  · rw [scrolls_moveUp h]
    exact Nat.le_succ _

theorem scrolls_le_settle : grid.scrolls ≤ grid.settle.scrolls := by
  rw [settle]
  split
  · exact scrolls_le_moveUp
  · exact Nat.le_refl _

theorem scrolls_le_newline : grid.scrolls ≤ grid.newline.scrolls :=
  @scrolls_le_settle grid.nextRow

theorem scrolls_wrap : grid.wrap.scrolls = grid.scrolls := by
  rw [wrap]
  split
  · rfl
  · rfl

theorem scrolls_fill (value : UInt8) : (grid.fill value).scrolls = grid.scrolls := rfl

theorem cells_wrap : grid.wrap.cells = grid.cells := by
  rw [wrap]
  split
  · rfl
  · rfl

theorem scrolls_le_makeRoom : grid.scrolls ≤ grid.makeRoom.scrolls := by
  rw [makeRoom]
  split
  · exact @scrolls_le_newline (grid.put 0x20)
  · exact Nat.le_refl _

theorem scrolls_le_addWide (lead follower : UInt8) :
    grid.scrolls ≤ (grid.addWide lead follower).scrolls := by
  rw [addWide, scrolls_wrap, scrolls_fill, scrolls_fill]
  exact scrolls_le_makeRoom

theorem scrolls_le_addNarrow (value : UInt8) :
    grid.scrolls ≤ (grid.addNarrow value).scrolls := by
  rw [addNarrow]
  split
  · exact scrolls_le_newline
  · split
    · exact Nat.le_refl _
    · exact Nat.le_of_eq ((scrolls_fill value).symm.trans scrolls_wrap.symm)

theorem scrolls_settle_le_addChar (code : UInt16) :
    grid.settle.scrolls ≤ (grid.addChar code).scrolls := by
  rw [addChar]
  split
  · exact scrolls_le_addWide _ _
  · exact scrolls_le_addNarrow _

theorem scrolls_le_addChar (code : UInt16) : grid.scrolls ≤ (grid.addChar code).scrolls :=
  Nat.le_trans scrolls_le_settle (scrolls_settle_le_addChar code)

theorem line_lt_addWide (h : grid.cols ≤ grid.col + 1) (lead follower : UInt8) :
    grid.line < (grid.addWide lead follower).line := by
  have hRoom : grid.makeRoom.line = grid.line + 1 := by
    rw [makeRoom, if_pos h, line_newline]
    rfl
  have hWrap := @line_le_wrap ((grid.makeRoom.fill lead).fill follower)
  rw [line_fill, line_fill] at hWrap
  rw [addWide]
  omega

theorem rowBytes_wrap (row : Nat) : grid.wrap.rowBytes row = grid.rowBytes row := by
  rw [rowBytes, rowBytes, cells_wrap, cols_eq_of_dims grid.dims_wrap]

theorem rowBytes_fill (hRow : grid.row < grid.rows) (hCol : grid.col < grid.cols)
    (hArea : grid.cols * grid.rows ≤ grid.cells.size) (value : UInt8) {row : Nat}
    (h : row < grid.rows) (hOther : row ≠ grid.row) :
    (grid.fill value).rowBytes row = grid.rowBytes row := by
  have hFilled := area_le_of_dims (grid.dims_fill value) hArea
  rw [@rowBytes_eq (grid.fill value) hFilled row h, rowBytes_eq hArea h]
  apply List.map_congr_left
  intro col hMem
  exact (cell_put hRow hCol hArea value row (List.mem_range.mp hMem)).trans
    (if_neg fun hHere => hOther hHere.1)

theorem rowBytes_addWide (hInside : grid.row < grid.rows)
    (hArea : grid.cols * grid.rows ≤ grid.cells.size) {lead follower : UInt8}
    (hLine : (grid.addWide lead follower).line = grid.line) {row : Nat} (h : row < grid.rows)
    (hOther : row ≠ grid.row) : (grid.addWide lead follower).rowBytes row = grid.rowBytes row := by
  have hRoom : ¬ grid.cols ≤ grid.col + 1 := by
    intro hFull
    have := line_lt_addWide hFull lead follower
    omega
  have hMakeRoom : grid.makeRoom = grid := by rw [makeRoom, if_neg hRoom]
  have hFilled := area_le_of_dims (grid.dims_fill lead) hArea
  have hRows : (grid.fill lead).rows = grid.rows := rows_eq_of_dims (grid.dims_fill lead)
  have hCols : (grid.fill lead).cols = grid.cols := cols_eq_of_dims (grid.dims_fill lead)
  have hCol : (grid.fill lead).col = grid.col + 1 := rfl
  have hFollower :
      ((grid.fill lead).fill follower).rowBytes row = (grid.fill lead).rowBytes row := by
    apply rowBytes_fill _ _ hFilled follower
    · rwa [hRows]
    · rwa [row_fill]
    · rwa [row_fill, hRows]
    · rw [hCol, hCols]
      exact Nat.lt_of_not_le hRoom
  rw [addWide, rowBytes_wrap, hMakeRoom, hFollower]
  exact rowBytes_fill hInside (by omega) hArea lead h hOther

theorem rowBytes_addNarrow (hInside : grid.row < grid.rows)
    (hArea : grid.cols * grid.rows ≤ grid.cells.size) {value : UInt8}
    (hLine : (grid.addNarrow value).line = grid.line) {row : Nat} (h : row < grid.rows)
    (hOther : row ≠ grid.row) : (grid.addNarrow value).rowBytes row = grid.rowBytes row := by
  rw [addNarrow] at hLine ⊢
  split at hLine
  · rw [line_newline] at hLine
    omega
  · rename_i hFeed
    rw [if_neg hFeed]
    split at hLine
    · rename_i hReturn
      rw [if_pos hReturn]
    · rename_i hReturn
      have hCol : grid.col < grid.cols := by
        apply Nat.lt_of_not_le
        intro hFull
        have hNext := @line_wrap_of_full (grid.fill value) (Nat.le_succ_of_le hFull)
        rw [line_fill] at hNext
        omega
      rw [if_neg hReturn, rowBytes_wrap]
      exact rowBytes_fill hInside hCol hArea value h hOther

theorem rowBytes_addChar (hSound : Sound grid) {code : UInt16}
    (hScrolls : (grid.addChar code).scrolls = grid.scrolls)
    (hStays : (grid.addChar code).row = grid.row) {row : Nat} (h : row < grid.rows)
    (hOther : row ≠ grid.row) : (grid.addChar code).rowBytes row = grid.rowBytes row := by
  have hLine : (grid.addChar code).line = grid.line := by rw [line, line, hScrolls, hStays]
  have hInside : grid.row < grid.rows := by
    apply Nat.lt_of_not_le
    intro hBelow
    have hCounted := @scrolls_settle_le_addChar grid code
    rw [settle, if_pos hBelow, scrolls_moveUp (by omega)] at hCounted
    omega
  have hSettled : grid.settle = grid := by rw [settle, if_neg (by omega)]
  rw [addChar, hSettled] at hLine ⊢
  split at hLine
  · rename_i hWide
    rw [if_pos hWide]
    exact rowBytes_addWide hInside hSound.area_le hLine h hOther
  · rename_i hNarrow
    rw [if_neg hNarrow]
    exact rowBytes_addNarrow hInside hSound.area_le hLine h hOther

end Handheld.Grid
