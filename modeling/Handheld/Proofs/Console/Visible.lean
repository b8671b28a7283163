import Handheld.Player.Basic
import Handheld.Machine.Basic
import Handheld.Proofs.Console.Actions
import Handheld.Proofs.Console.Cells
import Handheld.Proofs.Display.Lines

/-! # Text within the grid

A page has more cells than the grid of a large font, and those behind the grid are never drawn.
Scrolling and line breaks leave them alone on every grid. A character does so too, and comes to stand
in cells that are drawn, if the grid has a row and as many columns as the character has bytes. A
screen may be too small for that.
-/
set_option autoImplicit false
namespace Handheld

def charBytes (code : UInt16) : List UInt8 :=
  if 0xff < code.toNat then [UInt8.ofNat code.toNat, UInt8.ofNat (code.toNat / 256)]
  else [UInt8.ofNat code.toNat]

namespace Grid

/-- The number of cells in front of the cursor. Below the grid it stands behind all of them. -/
def cursor (grid : Grid) : Nat := grid.cols * grid.row + grid.col

/-- There is a row, and it has columns for all bytes of a character. -/
def HasRoom (grid : Grid) (code : UInt16) : Prop :=
  0 < grid.rows ∧ (charBytes code).length ≤ grid.cols

/-- The bytes stand in front of the cursor, in adjacent cells of one row. -/
def Holds (grid : Grid) (bytes : List UInt8) : Prop :=
  ∃ row col, row < grid.rows ∧ col + bytes.length ≤ grid.cols ∧
    grid.cursor = grid.cols * row + col + bytes.length ∧
    ∀ i (hi : i < bytes.length), grid.cells[grid.cols * row + col + i]? = some bytes[i]

/-- A character that stores nothing, or one that has room. -/
def Takes (grid : Grid) (code : UInt16) : Prop := code = 0x0a ∨ code = 0x0d ∨ grid.HasRoom code

structure Within (grid after : Grid) : Prop where
  dims_eq : after.dims = grid.dims
  behind_eq : ∀ i, grid.cols * grid.rows ≤ i → after.cells[i]? = grid.cells[i]?

variable {grid after last : Grid}

theorem Within.of_cells (hDims : after.dims = grid.dims) (hCells : after.cells = grid.cells) :
    Within grid after :=
  ⟨hDims, fun i _ => congrArg (·[i]?) hCells⟩

theorem Within.trans (hFirst : Within grid after) (hNext : Within after last) :
    Within grid last where
  dims_eq := hNext.dims_eq.trans hFirst.dims_eq
  behind_eq i hi := by
    have hBehind : after.cols * after.rows ≤ i := by
      rwa [cols_eq_of_dims hFirst.dims_eq, rows_eq_of_dims hFirst.dims_eq]
    exact (hNext.behind_eq i hBehind).trans (hFirst.behind_eq i hi)

theorem takes_congr (hDims : after.dims = grid.dims) {code : UInt16} :
    after.Takes code ↔ grid.Takes code := by
  rw [Takes, Takes, HasRoom, HasRoom, rows_eq_of_dims hDims, cols_eq_of_dims hDims]

theorem Within.lt_of_ne (h : Within grid after) {i : Nat}
    (hChanged : after.cells[i]? ≠ grid.cells[i]?) : i < grid.rows * grid.cols := by
  rw [Nat.mul_comm]
  exact Nat.lt_of_not_le fun hBehind => hChanged (h.behind_eq i hBehind)

theorem within_moveUp (grid : Grid) : Within grid grid.moveUp := by
  refine ⟨grid.dims_moveUp, fun i hi => ?_⟩
  have hShown : grid.shown ≤ i := Nat.le_trans (Nat.min_le_left _ _) hi
  rw [moveUp]
  split
  · rfl
  · have hKept : ¬ i < grid.shown - grid.cols := by omega
    simp only [Array.getElem?_mapIdx, if_neg hKept, if_neg (Nat.not_lt.mpr hShown)]
    exact Option.map_id'

theorem within_settle (grid : Grid) : Within grid grid.settle := by
  rw [settle]
  split
  · exact within_moveUp grid
  · exact .of_cells rfl rfl

theorem within_newline (grid : Grid) : Within grid grid.newline :=
  (Within.of_cells grid.dims_nextRow rfl).trans (within_settle grid.nextRow)

theorem within_wrap (grid : Grid) : Within grid grid.wrap := .of_cells grid.dims_wrap cells_wrap

theorem within_put (hRow : grid.row < grid.rows) (hCol : grid.col < grid.cols) (value : UInt8) :
    Within grid (grid.put value) := by
  refine ⟨grid.dims_put value, fun i hi => ?_⟩
  have hPlace := place_lt hRow hCol
  exact Array.getElem?_setIfInBounds_ne (by omega)

theorem within_fill (hRow : grid.row < grid.rows) (hCol : grid.col < grid.cols) (value : UInt8) :
    Within grid (grid.fill value) :=
  (within_put hRow hCol value).trans (.of_cells rfl rfl)

theorem Settled.row_lt_rows (h : Settled grid) (hRows : 0 < grid.rows) : grid.row < grid.rows := by
  have hRow := h.row_lt
  omega

theorem Settled.col_lt_cols (h : Settled grid) (hCols : 0 < grid.cols) : grid.col < grid.cols := by
  have hCol := h.col_lt
  omega

theorem col_settle (grid : Grid) : grid.settle.col = grid.col := by
  rw [settle]
  split
  · exact col_moveUp
  · rfl

theorem cursor_wrap (hCol : grid.col ≤ grid.cols) : grid.wrap.cursor = grid.cursor := by
  rw [wrap]
  split
  · rename_i hFull
    have hLast : grid.col = grid.cols := Nat.le_antisymm hCol hFull
    simp only [cursor, nextRow, hLast, Nat.mul_succ, Nat.add_zero]
  · rfl

theorem Holds.wrap {bytes : List UInt8} (h : Holds grid bytes) (hCol : grid.col ≤ grid.cols) :
    Holds grid.wrap bytes := by
  obtain ⟨row, col, hRow, hBytes, hCursor, hCells⟩ := h
  refine ⟨row, col, ?_, ?_, ?_, ?_⟩
  · rwa [rows_eq_of_dims grid.dims_wrap]
  · rwa [cols_eq_of_dims grid.dims_wrap]
  · rw [cursor_wrap hCol, cols_eq_of_dims grid.dims_wrap, hCursor]
  · rw [cells_wrap, cols_eq_of_dims grid.dims_wrap]
    exact hCells

theorem getElem?_put (hRow : grid.row < grid.rows) (hCol : grid.col < grid.cols)
    (hArea : grid.cols * grid.rows ≤ grid.cells.size) (value : UInt8) :
    (grid.put value).cells[grid.cols * grid.row + grid.col]? = some value := by
  have hPlace := place_lt hRow hCol
  exact Array.getElem?_setIfInBounds_self_of_lt (by omega)

theorem Settled.addNarrow_room (h : Settled grid) (hRows : 0 < grid.rows) (hCols : 0 < grid.cols)
    {value : UInt8} (hFeed : value ≠ 0x0a) (hReturn : value ≠ 0x0d) :
    Within grid (grid.addNarrow value) ∧ Holds (grid.addNarrow value) [value] := by
  have hRow := h.row_lt_rows hRows
  have hCol := h.col_lt_cols hCols
  rw [Grid.addNarrow, if_neg hFeed, if_neg hReturn]
  refine ⟨(within_fill hRow hCol value).trans (within_wrap _), Holds.wrap ?_ hCol⟩
  refine ⟨grid.row, grid.col, hRow, hCol, rfl, fun i hi => ?_⟩
  obtain rfl : i = 0 := by simpa using hi
  exact getElem?_put hRow hCol h.area_le value

theorem Settled.makeRoom_room (h : Settled grid) (hRows : 0 < grid.rows) (hCols : 2 ≤ grid.cols) :
    Within grid grid.makeRoom ∧ Settled grid.makeRoom ∧ grid.makeRoom.col + 1 < grid.cols := by
  refine ⟨?_, h.makeRoom, ?_⟩
  · rw [Grid.makeRoom]
    split
    · exact (within_put (h.row_lt_rows hRows) (h.col_lt_cols (by omega)) 0x20).trans
        (within_newline _)
    · exact .of_cells rfl rfl
  · rw [Grid.makeRoom]
    split
    · have hCol : (grid.put 0x20).newline.col = 0 := col_settle _
      omega
    · omega

theorem Settled.addWide_room (h : Settled grid) (hRows : 0 < grid.rows) (hCols : 2 ≤ grid.cols)
    (lead follower : UInt8) :
    Within grid (grid.addWide lead follower) ∧
      Holds (grid.addWide lead follower) [lead, follower] := by
  obtain ⟨hWithin, hRoom, hFree⟩ := h.makeRoom_room hRows hCols
  have hRowsEq := rows_eq_of_dims grid.dims_makeRoom
  have hColsEq := cols_eq_of_dims grid.dims_makeRoom
  rw [← hColsEq] at hFree
  rw [← hRowsEq] at hRows
  rw [Grid.addWide]
  generalize grid.makeRoom = room at *
  have hRow := hRoom.row_lt_rows hRows
  have hLead : Within room (room.fill lead) := within_fill hRow (by omega) lead
  have hFollower : Within (room.fill lead) ((room.fill lead).fill follower) :=
    @within_fill (room.fill lead) hRow hFree follower
  refine ⟨((hWithin.trans hLead).trans hFollower).trans (within_wrap _), Holds.wrap ?_ hFree⟩
  have hSize := size_eq_of_dims (room.dims_fill lead)
  have hPlace := place_lt hRow hFree
  have hArea := hRoom.area_le
  refine ⟨room.row, room.col, hRow, hFree, rfl, fun i hi => ?_⟩
  obtain rfl | rfl : i = 0 ∨ i = 1 := by
    have hBytes : [lead, follower].length = 2 := rfl
    omega
  · refine (Array.getElem?_setIfInBounds_ne ?_).trans
      (getElem?_put hRow (by omega) hArea lead)
    change room.cols * room.row + (room.col + 1) ≠ room.cols * room.row + room.col
    omega
  · exact @getElem?_put (room.fill lead) hRow hFree (hSize ▸ hArea) follower

theorem toNat_lt_of_narrow {code : UInt16} (h : ¬ 0xff < code.toNat) :
    (UInt8.ofNat code.toNat).toNat = code.toNat :=
  UInt8.toNat_ofNat_of_lt' (by change code.toNat < 256; omega)

theorem narrow_eq_iff {code : UInt16} (h : ¬ 0xff < code.toNat) {value : UInt8} :
    UInt8.ofNat code.toNat = value ↔ code = UInt16.ofNat value.toNat := by
  have hValue : (UInt16.ofNat value.toNat).toNat = value.toNat :=
    UInt16.toNat_ofNat_of_lt' (Nat.lt_trans value.toNat_lt (by decide))
  rw [← UInt8.toNat_inj, ← UInt16.toNat_inj, toNat_lt_of_narrow h, hValue]

/-- Only a character without room is stored anywhere behind the grid. -/
theorem Sound.addChar_takes (h : Sound grid) {code : UInt16} (hTakes : grid.Takes code) :
    Within grid (grid.addChar code) ∧
      (code ≠ 0x0a → code ≠ 0x0d → Holds (grid.addChar code) (charBytes code)) := by
  have hSettled := h.settle
  have hRows := rows_eq_of_dims grid.dims_settle
  have hCols := cols_eq_of_dims grid.dims_settle
  rw [Grid.addChar]
  split
  · rename_i hWide
    have hRoom : grid.HasRoom code := by
      rcases hTakes with rfl | rfl | hRoom
      · exact absurd hWide (by decide)
      · exact absurd hWide (by decide)
      · exact hRoom
    have hLength := hRoom.2
    rw [charBytes, if_pos hWide] at hLength ⊢
    obtain ⟨hWithin, hHolds⟩ := hSettled.addWide_room (hRows ▸ hRoom.1) (hCols ▸ hLength)
      (UInt8.ofNat code.toNat) (UInt8.ofNat (code.toNat / 256))
    exact ⟨(within_settle grid).trans hWithin, fun _ _ => hHolds⟩
  · rename_i hNarrow
    by_cases hFeed : code = 0x0a
    · subst hFeed
      exact ⟨(within_settle grid).trans (within_newline _), fun hOther => absurd rfl hOther⟩
    by_cases hReturn : code = 0x0d
    · subst hReturn
      exact ⟨within_settle grid, fun _ hOther => absurd rfl hOther⟩
    have hRoom : grid.HasRoom code := by
      rcases hTakes with hSame | hSame | hRoom
      · exact absurd hSame hFeed
      · exact absurd hSame hReturn
      · exact hRoom
    have hLength := hRoom.2
    rw [charBytes, if_neg hNarrow] at hLength ⊢
    obtain ⟨hWithin, hHolds⟩ := hSettled.addNarrow_room (hRows ▸ hRoom.1) (hCols ▸ hLength)
      (mt (narrow_eq_iff hNarrow).mp hFeed) (mt (narrow_eq_iff hNarrow).mp hReturn)
    exact ⟨(within_settle grid).trans hWithin, fun _ _ => hHolds⟩

theorem Within.foldl_addChar (h : Sound grid) {codes : List UInt16}
    (hTakes : ∀ code ∈ codes, grid.Takes code) : Within grid (codes.foldl addChar grid) := by
  induction codes generalizing grid with
  | nil => exact .of_cells rfl rfl
  | cons code rest ih =>
    rw [List.forall_mem_cons] at hTakes
    have hFirst := (h.addChar_takes hTakes.1).1
    refine hFirst.trans (ih (h.addChar code) fun other hOther => ?_)
    exact (takes_congr hFirst.dims_eq).mpr (hTakes.2 other hOther)

theorem getElem?_rowBytes (row : Nat) {col : Nat} (hCol : col < grid.cols) :
    (grid.rowBytes row)[col]? = grid.cells[grid.cols * row + col]? := by
  rw [rowBytes, Array.getElem?_toList, Array.getElem?_extract, Nat.mul_comm row]
  split
  · rfl
  · exact (Array.getElem?_eq_none (by omega)).symm

end Grid

namespace Console
variable {console : Console}

theorem drawRow_mem_refreshCalls {row : Nat} (hRow : row < console.grid.rows) :
    console.drawRow row ∈ console.refreshCalls RefreshMask.everything := by
  have hDrawn : console.drawRow row ∈ console.drawRows RefreshMask.everything := by
    refine List.mem_map_of_mem (List.mem_filter.mpr ⟨List.mem_range.mpr hRow, ?_⟩)
    exact draws_everything row
  rw [refreshCalls, if_neg (by decide)]
  simp [hDrawn]

theorem Sound.foldl_apply (h : Sound console) (actions : List Action) :
    Sound (actions.foldl Action.apply console) := by
  induction actions generalizing console with
  | nil => exact h
  | cons action rest ih => exact ih (h.apply action)

/-- On any screen and in either font, a scroll or a line break changes no cells but those of the grid.
Nor does a character that has room, which then stands in front of the cursor, in one row. The cells of
the grid are those that are drawn. -/
theorem visible_of_actions (size : PixelSize) (actions : List Action) :
    let console := actions.foldl Action.apply (ofSize size)
    let grid := console.grid
    (∀ i, console.scrollUp.grid.cells[i]? ≠ grid.cells[i]? → i < grid.rows * grid.cols) ∧
    (∀ code, grid.Takes code →
      (∀ i, (console.addChar code).grid.cells[i]? ≠ grid.cells[i]? → i < grid.rows * grid.cols) ∧
      (code ≠ 0x0a → code ≠ 0x0d → (console.addChar code).grid.Holds (charBytes code))) ∧
    (∀ text, (∀ code ∈ charCodes text, grid.Takes code) → ∀ i,
      (console.addBytes text).grid.cells[i]? ≠ grid.cells[i]? → i < grid.rows * grid.cols) ∧
    ∀ i < grid.rows * grid.cols, ∃ row col, row < grid.rows ∧ col < grid.cols ∧
      i = grid.cols * row + col ∧
      console.drawRow row ∈ console.refreshCalls RefreshMask.everything ∧
      (grid.rowBytes row)[col]? = grid.cells[i]? := by
  intro console grid
  have hGrid : grid.Sound := ((sound_ofSize size).foldl_apply actions).grid
  refine ⟨fun i => (Grid.within_moveUp grid).lt_of_ne, fun code hTakes => ?_, fun text hTakes i => ?_,
    fun i hi => ?_⟩
  · obtain ⟨hWithin, hHolds⟩ := hGrid.addChar_takes hTakes
    exact ⟨fun i => hWithin.lt_of_ne, hHolds⟩
  · exact (Grid.Within.foldl_addChar hGrid hTakes).lt_of_ne
  · have hCols : 0 < grid.cols := Nat.pos_of_mul_pos_left (Nat.zero_lt_of_lt hi)
    have hRow : i / grid.cols < grid.rows := (Nat.div_lt_iff_lt_mul hCols).mpr hi
    have hCol := Nat.mod_lt i hCols
    have hPlace : i = grid.cols * (i / grid.cols) + i % grid.cols := (Nat.div_add_mod i _).symm
    refine ⟨i / grid.cols, i % grid.cols, hRow, hCol, hPlace, drawRow_mem_refreshCalls hRow, ?_⟩
    rw [Grid.getElem?_rowBytes _ hCol, ← hPlace]

/-- Only one cell is left in the last row, so that the double-width character gets the next row and
the text scrolls. The page has eight cells and the grid six. -/
theorem visible_of_lastCell :
    let console := (ofSize ⟨24, 32⟩).addBytes [0x61, 0x62, 0x63, 0x64, 0x65]
    let after := (console.addChar 0xa1b0).grid
    console.grid.Takes 0xa1b0 ∧ (∀ code ∈ charCodes [0x66, 0xb0, 0xa1, 0x0a], console.grid.Takes code) ∧
    after.Holds [0xb0, 0xa1] ∧ after.cells = #[0x64, 0x65, 0x20, 0xb0, 0xa1, 0, 0, 0] ∧
    (∀ i, after.cells[i]? ≠ console.grid.cells[i]? → i < 6) ∧
    ∀ i, (console.addBytes [0x66, 0xb0, 0xa1, 0x0a]).grid.cells[i]? ≠ console.grid.cells[i]? →
      i < 6 := by
  intro console after
  have hDims : console.grid.dims = (2, 3, 8) := by decide +kernel
  have hRows : console.grid.rows = 2 := congrArg Prod.fst hDims
  have hCols : console.grid.cols = 3 := congrArg (·.2.1) hDims
  have hTakes (code : UInt16) : console.grid.Takes code := by
    refine .inr (.inr ⟨by omega, ?_⟩)
    rw [hCols, charBytes]
    split <;> simp
  obtain ⟨-, hChar, hText, -⟩ :=
    visible_of_actions ⟨24, 32⟩ [.text (.addBytes [0x61, 0x62, 0x63, 0x64, 0x65])]
  obtain ⟨hWithin, hHolds⟩ := hChar 0xa1b0 (hTakes _)
  have hArea : console.grid.rows * console.grid.cols = 6 := by rw [hRows, hCols]
  refine ⟨hTakes _, fun code _ => hTakes code, hHolds (by decide) (by decide), ?_, ?_, ?_⟩
  · decide +kernel
  · exact fun i hChanged => hArea ▸ hWithin i hChanged
  · exact fun i hChanged => hArea ▸ hText _ (fun code _ => hTakes code) i hChanged

/-- Screens that have text cells in the small font alone: one without a big cell, and one with a
single one, which does not do for a double-width character. Both change a cell that no row has. -/
theorem unseen_of_cramped :
    (∃ machine, Machine.create ⟨⟨6, 13⟩, 1, 1⟩ Player.idle = .ok machine ∧
      let console := machine.work.console
      console.grid.rows * console.grid.cols = 0 ∧
      (console.addChar 0x61).grid.cells[0]? ≠ console.grid.cells[0]?) ∧
    ∃ machine, Machine.create ⟨⟨12, 16⟩, 1, 1⟩ Player.idle = .ok machine ∧
      let console := machine.work.console
      console.grid.rows * console.grid.cols = 1 ∧
      (console.addChar 0xa1b0).grid.cells[1]? ≠ console.grid.cells[1]? := by
  refine ⟨⟨_, rfl, ?_, ?_⟩, _, rfl, ?_, ?_⟩
  all_goals decide +kernel

end Console
end Handheld
