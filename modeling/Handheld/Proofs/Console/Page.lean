import Handheld.Proofs.Console.Actions
import Handheld.Proofs.Console.Cells

/-! # The console as a window on an endless page

Text could as well be written on a page whose rows never end and never move. The grid of a console
shows a window of that page: scrolling moves the window down, owed scrolls included, and the text
under it stays what it is. Writing alone never touches a cell that lies behind the cursor.
-/
set_option autoImplicit false
namespace Handheld

/-- A page of rows without end, with a cursor. -/
structure Page where
  cell : Nat → Nat → UInt8
  row : Nat
  col : Nat

namespace Page

def blank : Page := ⟨fun _ _ => 0, 0, 0⟩

def rowBytes (page : Page) (cols row : Nat) : List UInt8 := (List.range cols).map (page.cell row)

def put (page : Page) (value : UInt8) : Page :=
  { page with
    cell := fun row col => if row = page.row ∧ col = page.col then value else page.cell row col }

def fill (page : Page) (value : UInt8) : Page := { page.put value with col := page.col + 1 }

def nextRow (page : Page) : Page := { page with row := page.row + 1, col := 0 }

def wrap (cols : Nat) (page : Page) : Page := if page.col = cols then page.nextRow else page

def makeRoom (cols : Nat) (page : Page) : Page :=
  if page.col + 1 = cols then (page.put 0x20).nextRow else page

def addWide (cols : Nat) (lead follower : UInt8) (page : Page) : Page :=
  (((page.makeRoom cols).fill lead).fill follower).wrap cols

def addNarrow (cols : Nat) (value : UInt8) (page : Page) : Page :=
  if value = 0x0a then page.nextRow
  else if value = 0x0d then page
  else (page.fill value).wrap cols

def addChar (cols : Nat) (page : Page) (code : UInt16) : Page :=
  if 0xff < code.toNat then
    page.addWide cols (UInt8.ofNat code.toNat) (UInt8.ofNat (code.toNat / 256))
  else page.addNarrow cols (UInt8.ofNat code.toNat)

def addBytes (cols : Nat) (page : Page) (text : List UInt8) : Page :=
  (charCodes text).foldl (addChar cols) page

def locate (top rows cols : Nat) (page : Page) (row col : Int) : Page :=
  { page with
    row := if 0 ≤ row ∧ row < rows then top + row.toNat else page.row
    col := if 0 ≤ col ∧ col < cols then col.toNat else page.col }

/-- The cells behind the cursor, in the order of reading. -/
def Before (page : Page) (row col : Nat) : Prop := row < page.row ∨ row = page.row ∧ col < page.col

/-- A later page keeps what stood behind the cursor and does not go back. -/
def Grows (page later : Page) : Prop :=
  ∀ row col, page.Before row col → later.cell row col = page.cell row col ∧ later.Before row col

end Page

def TextOp.onPage (top rows cols : Nat) (page : Page) : TextOp → Page
  | addChar code => page.addChar cols code
  | addBytes text => page.addBytes cols text
  | locate row col => page.locate top rows cols row col
  | scrollUp => page

namespace Page

/-- A console and a page side by side. The window begins as many rows down as the console has
scrolled since a count of scrolls. -/
def follow (start : Nat) (pair : Console × Page) (op : TextOp) : Console × Page :=
  let grid := pair.1.grid
  (op.onConsole pair.1, op.onPage (grid.scrolls - start) grid.rows grid.cols pair.2)

theorem Grows.refl (page : Page) : page.Grows page := fun _ _ h => ⟨rfl, h⟩

theorem Grows.trans {a b c : Page} (hab : a.Grows b) (hbc : b.Grows c) : a.Grows c := by
  intro row col h
  obtain ⟨hCell, hBefore⟩ := hab row col h
  obtain ⟨hCell', hBefore'⟩ := hbc row col hBefore
  exact ⟨hCell'.trans hCell, hBefore'⟩

theorem grows_put (page : Page) (value : UInt8) : page.Grows (page.put value) := by
  intro row col h
  refine ⟨?_, h⟩
  rw [put]
  apply if_neg
  rintro ⟨rfl, rfl⟩
  rcases h with h | h
  · omega
  · omega

theorem grows_nextRow (page : Page) : page.Grows page.nextRow := by
  intro row col h
  refine ⟨rfl, ?_⟩
  rcases h with h | ⟨rfl, _⟩
  · exact .inl (Nat.lt_succ_of_lt h)
  · exact .inl (Nat.lt_succ_self _)

theorem grows_fill (page : Page) (value : UInt8) : page.Grows (page.fill value) := by
  intro row col h
  refine ⟨(grows_put page value row col h).1, ?_⟩
  rcases h with h | ⟨rfl, h⟩
  · exact .inl h
  · exact .inr ⟨rfl, Nat.lt_succ_of_lt h⟩

theorem grows_wrap (cols : Nat) (page : Page) : page.Grows (page.wrap cols) := by
  rw [wrap]
  split
  · exact grows_nextRow page
  · exact .refl page

theorem grows_makeRoom (cols : Nat) (page : Page) : page.Grows (page.makeRoom cols) := by
  rw [makeRoom]
  split
  · exact (grows_put page 0x20).trans (grows_nextRow _)
  · exact .refl page

theorem grows_addChar (cols : Nat) (page : Page) (code : UInt16) :
    page.Grows (page.addChar cols code) := by
  rw [addChar]
  split
  · rw [addWide]
    exact (grows_makeRoom cols page).trans
      ((grows_fill _ _).trans ((grows_fill _ _).trans (grows_wrap cols _)))
  · rw [addNarrow]
    split
    · exact grows_nextRow page
    · split
      · exact .refl page
      · exact (grows_fill page _).trans (grows_wrap cols _)

theorem grows_onPage {op : TextOp} (h : ∀ row col, op ≠ .locate row col) (top rows cols : Nat)
    (page : Page) : page.Grows (op.onPage top rows cols page) := by
  cases op with
  | addChar code => exact grows_addChar cols page code
  | addBytes text =>
    rw [TextOp.onPage, addBytes]
    induction charCodes text generalizing page with
    | nil => exact .refl page
    | cons code rest ih => exact (grows_addChar cols page code).trans (ih _)
  | locate row col => exact absurd rfl (h row col)
  | scrollUp => exact .refl page

/-- The grid shows the rows of the page from the number of scrolls on, and below the grid nothing
has been written yet. -/
structure Shows (start : Nat) (grid : Grid) (page : Page) : Prop where
  rows_pos : 1 ≤ grid.rows
  cols_two : 2 ≤ grid.cols
  area_le : grid.cols * grid.rows ≤ grid.cells.size
  row_le : grid.row ≤ grid.rows
  col_lt : grid.col < grid.cols
  start_le : start ≤ grid.scrolls
  cell_eq : ∀ row < grid.rows, ∀ col < grid.cols,
    grid.cell row col = page.cell (grid.scrolls - start + row) col
  row_eq : page.row = grid.scrolls - start + grid.row
  col_eq : page.col = grid.col
  fresh : ∀ row col, grid.scrolls - start + grid.rows ≤ row → page.cell row col = 0

variable {start : Nat} {grid : Grid} {page : Page}

theorem Shows.put (h : Shows start grid page) (hRow : grid.row < grid.rows) (value : UInt8) :
    Shows start (grid.put value) (page.put value) where
  rows_pos := h.rows_pos
  cols_two := h.cols_two
  area_le := Grid.area_le_of_dims (grid.dims_put value) h.area_le
  row_le := h.row_le
  col_lt := h.col_lt
  start_le := h.start_le
  cell_eq row hLess col hCol := by
    rw [Grid.cell_put hRow h.col_lt h.area_le value row hCol, h.cell_eq row hLess col hCol,
      Page.put]
    have hSame : grid.scrolls - start + row = page.row ∧ col = page.col ↔
        row = grid.row ∧ col = grid.col := by
      rw [h.row_eq, h.col_eq]
      omega
    change _ = if grid.scrolls - start + row = page.row ∧ col = page.col then value
      else page.cell (grid.scrolls - start + row) col
    simp only [hSame]
  row_eq := h.row_eq
  col_eq := h.col_eq
  fresh row col hBelow := by
    have hCursor : ¬ (row = page.row ∧ col = page.col) := by
      rw [h.row_eq]
      change grid.scrolls - start + grid.rows ≤ row at hBelow
      omega
    rw [Page.put]
    exact (if_neg hCursor).trans (h.fresh row col hBelow)

theorem Shows.moveUp (h : Shows start grid page) (hRow : grid.row ≠ 0) :
    Shows start grid.moveUp page := by
  have hDims := grid.dims_moveUp
  have hScrolls : grid.moveUp.scrolls - start = grid.scrolls - start + 1 := by
    rw [Grid.scrolls_moveUp hRow]
    have := h.start_le
    omega
  constructor
  case rows_pos =>
    rw [Grid.rows_eq_of_dims hDims]
    exact h.rows_pos
  case cols_two =>
    rw [Grid.cols_eq_of_dims hDims]
    exact h.cols_two
  case area_le => exact Grid.area_le_of_dims hDims h.area_le
  case row_le =>
    rw [Grid.row_moveUp hRow, Grid.rows_eq_of_dims hDims]
    have := h.row_le
    omega
  case col_lt =>
    rw [Grid.col_moveUp, Grid.cols_eq_of_dims hDims]
    exact h.col_lt
  case start_le => exact Nat.le_trans h.start_le Grid.scrolls_le_moveUp
  case cell_eq =>
    intro row hLess col hCol
    rw [Grid.rows_eq_of_dims hDims] at hLess
    rw [Grid.cols_eq_of_dims hDims] at hCol
    rw [Grid.cell_moveUp hRow h.area_le hLess hCol, hScrolls]
    split
    · rename_i hNext
      rw [h.cell_eq (row + 1) hNext col hCol]
      congr 1
      omega
    · -- the row that comes into the window has not been written
      rw [h.fresh]
      omega
  case row_eq =>
    rw [hScrolls, Grid.row_moveUp hRow, h.row_eq]
    omega
  case col_eq => rw [Grid.col_moveUp, h.col_eq]
  case fresh =>
    intro row col hBelow
    rw [hScrolls, Grid.rows_eq_of_dims hDims] at hBelow
    apply h.fresh
    omega

theorem Shows.settle (h : Shows start grid page) :
    Shows start grid.settle page ∧ grid.settle.row < grid.settle.rows := by
  have hPos := h.rows_pos
  have hLe := h.row_le
  rw [Grid.settle]
  split
  · have hRow : grid.row ≠ 0 := by omega
    refine ⟨h.moveUp hRow, ?_⟩
    rw [Grid.row_moveUp hRow, Grid.rows_eq_of_dims grid.dims_moveUp]
    omega
  · exact ⟨h, by omega⟩

theorem Shows.nextRow (h : Shows start grid page) (hRow : grid.row < grid.rows) :
    Shows start grid.nextRow page.nextRow where
  rows_pos := h.rows_pos
  cols_two := h.cols_two
  area_le := h.area_le
  row_le := hRow
  col_lt := Nat.lt_of_lt_of_le Nat.zero_lt_two h.cols_two
  start_le := h.start_le
  cell_eq := h.cell_eq
  row_eq := congrArg (· + 1) h.row_eq
  col_eq := rfl
  fresh := h.fresh

theorem Shows.newline (h : Shows start grid page) (hRow : grid.row < grid.rows) :
    Shows start grid.newline page.nextRow ∧ grid.newline.row < grid.newline.rows :=
  (h.nextRow hRow).settle

theorem Shows.fill (h : Shows start grid page) (hRow : grid.row < grid.rows)
    (hCol : grid.col + 1 < grid.cols) (value : UInt8) :
    Shows start (grid.fill value) (page.fill value) :=
  { h.put hRow value with
    col_lt := hCol
    col_eq := congrArg (· + 1) h.col_eq }

theorem Shows.fill_wrap (h : Shows start grid page) (hRow : grid.row < grid.rows)
    (value : UInt8) : Shows start (grid.fill value).wrap ((page.fill value).wrap grid.cols) := by
  have hLt := h.col_lt
  have hCols : (grid.fill value).cols = grid.cols := rfl
  have hCol : (grid.fill value).col = grid.col + 1 := rfl
  have hPageCol : (page.fill value).col = grid.col + 1 := congrArg (· + 1) h.col_eq
  rw [Grid.wrap, Page.wrap, hCols, hCol, hPageCol]
  by_cases hFull : grid.col + 1 = grid.cols
  · rw [if_pos (by omega), if_pos hFull]
    exact (h.put hRow value).nextRow hRow
  · rw [if_neg (by omega), if_neg hFull]
    exact h.fill hRow (by omega) value

theorem Shows.makeRoom (h : Shows start grid page) (hRow : grid.row < grid.rows) :
    Shows start grid.makeRoom (page.makeRoom grid.cols) ∧
      grid.makeRoom.row < grid.makeRoom.rows ∧ grid.makeRoom.col + 1 < grid.makeRoom.cols := by
  have hLt := h.col_lt
  rw [Grid.makeRoom, Page.makeRoom, h.col_eq]
  by_cases hLast : grid.col + 1 = grid.cols
  · rw [if_pos (by omega), if_pos hLast]
    obtain ⟨hShows, hInside⟩ := (h.put hRow 0x20).newline hRow
    refine ⟨hShows, hInside, ?_⟩
    have hCol : (grid.put 0x20).newline.col = 0 := by
      rw [Grid.newline, Grid.settle]
      split
      · exact Grid.col_moveUp
      · rfl
    have := hShows.cols_two
    omega
  · rw [if_neg (by omega), if_neg hLast]
    exact ⟨h, hRow, by omega⟩

theorem Shows.addWide (h : Shows start grid page) (hRow : grid.row < grid.rows)
    (lead follower : UInt8) :
    Shows start (grid.addWide lead follower) (page.addWide grid.cols lead follower) := by
  obtain ⟨hRoom, hInside, hCol⟩ := h.makeRoom hRow
  have hFilled := (hRoom.fill hInside hCol lead).fill_wrap hInside follower
  have hCols : (grid.makeRoom.fill lead).cols = grid.cols :=
    Grid.cols_eq_of_dims ((Grid.dims_fill _ lead).trans grid.dims_makeRoom)
  rw [hCols] at hFilled
  exact hFilled

theorem Shows.addNarrow (h : Shows start grid page) (hRow : grid.row < grid.rows)
    (value : UInt8) : Shows start (grid.addNarrow value) (page.addNarrow grid.cols value) := by
  rw [Grid.addNarrow, Page.addNarrow]
  split
  · exact (h.newline hRow).1
  · split
    · exact h
    · exact h.fill_wrap hRow value

theorem Shows.addChar (h : Shows start grid page) (code : UInt16) :
    Shows start (grid.addChar code) (page.addChar grid.cols code) := by
  obtain ⟨hSettled, hRow⟩ := h.settle
  have hCols : grid.settle.cols = grid.cols := Grid.cols_eq_of_dims grid.dims_settle
  rw [Grid.addChar, Page.addChar, ← hCols]
  split
  · exact hSettled.addWide hRow _ _
  · exact hSettled.addNarrow hRow _

theorem Shows.addBytes (h : Shows start grid page) (text : List UInt8) :
    Shows start (grid.addBytes text) (page.addBytes grid.cols text) := by
  rw [Grid.addBytes, Page.addBytes]
  induction charCodes text generalizing grid page with
  | nil => exact h
  | cons code rest ih =>
    have hNext := ih (h.addChar code)
    rw [Grid.cols_eq_of_dims (grid.dims_addChar code)] at hNext
    exact hNext

theorem Shows.locate (h : Shows start grid page) (row col : Int) :
    Shows start (grid.locate row col)
      (page.locate (grid.scrolls - start) grid.rows grid.cols row col) :=
  { h with
    row_le := by
      have hLe := h.row_le
      simp only [Grid.locate]
      split
      · omega
      · exact hLe
    col_lt := by
      have hLt := h.col_lt
      simp only [Grid.locate]
      split
      · omega
      · exact hLt
    row_eq := by
      simp only [Grid.locate, Page.locate]
      split
      · rfl
      · exact h.row_eq
    col_eq := by
      simp only [Grid.locate, Page.locate]
      split
      · rfl
      · exact h.col_eq }

theorem shows_of_cleared {console : Console} (h : console.Cleared) (hRows : 1 ≤ console.grid.rows)
    (hCols : 2 ≤ console.grid.cols) : Shows console.grid.scrolls console.grid blank := by
  obtain ⟨hRow, hCol, hZero⟩ := h.blank
  constructor
  case rows_pos => exact hRows
  case cols_two => exact hCols
  case area_le => exact h.sound.grid.area_le
  case row_le => omega
  case col_lt => omega
  case start_le => exact Nat.le_refl _
  case cell_eq =>
    intro row hLess col hCell
    have hPlace := Grid.place_lt hLess hCell
    have hArea := h.sound.grid.area_le
    rw [Grid.cell, Array.getD_eq_getD_getElem?, Array.getElem?_eq_getElem (by omega),
      Option.getD_some]
    exact hZero _ (Array.getElem_mem _)
  case row_eq => rw [hRow, Nat.sub_self]; rfl
  case col_eq => rw [hCol]; rfl
  case fresh => exact fun _ _ _ => rfl

theorem Shows.rowBytes_eq (h : Shows start grid page) {row : Nat} (hRow : row < grid.rows) :
    grid.rowBytes row = page.rowBytes grid.cols (grid.scrolls - start + row) := by
  rw [Grid.rowBytes_eq h.area_le hRow, Page.rowBytes]
  apply List.map_congr_left
  intro col hCol
  exact h.cell_eq row hRow col (List.mem_range.mp hCol)

def Over (start : Nat) (pair : Console × Page) : Prop := Shows start pair.1.grid pair.2

theorem Over.follow {pair : Console × Page} (h : Over start pair) (op : TextOp) :
    Over start (follow start pair op) := by
  cases op with
  | addChar code => exact Shows.addChar h code
  | addBytes text => exact Shows.addBytes h text
  | locate row col => exact Shows.locate h row col
  | scrollUp =>
    by_cases hRow : pair.1.grid.row = 0
    · have hStill : pair.1.grid.moveUp = pair.1.grid := Grid.moveUp_of_row_eq_zero hRow
      change Shows start pair.1.grid.moveUp pair.2
      rw [hStill]
      exact h
    · exact Shows.moveUp h hRow

theorem Over.foldl {pair : Console × Page} (h : Over start pair) (ops : List TextOp) :
    Over start (ops.foldl (Page.follow start) pair) := by
  induction ops generalizing pair with
  | nil => exact h
  | cons op rest ih => exact ih (h.follow op)

theorem dims_foldl (ops : List TextOp) (pair : Console × Page) :
    (ops.foldl (follow start) pair).1.grid.dims = pair.1.grid.dims := by
  induction ops generalizing pair with
  | nil => rfl
  | cons op rest ih =>
    rw [List.foldl_cons, ih]
    cases op with
    | addChar code => exact Grid.dims_addChar _ code
    | addBytes text => exact Grid.dims_addBytes _ text
    | locate row col => exact Grid.dims_locate _ row col
    | scrollUp => exact Grid.dims_moveUp _

theorem scrolls_le_follow (pair : Console × Page) (op : TextOp) :
    pair.1.grid.scrolls ≤ (follow start pair op).1.grid.scrolls := by
  cases op with
  | addChar code => exact Grid.scrolls_le_addChar code
  | addBytes text =>
    change pair.1.grid.scrolls ≤ ((charCodes text).foldl Grid.addChar pair.1.grid).scrolls
    generalize pair.1.grid = grid
    induction charCodes text generalizing grid with
    | nil => exact Nat.le_refl _
    | cons code rest ih => exact Nat.le_trans (Grid.scrolls_le_addChar code) (ih _)
  | locate row col => exact Nat.le_refl _
  | scrollUp => exact Grid.scrolls_le_moveUp

theorem scrolls_le_foldl (ops : List TextOp) (pair : Console × Page) :
    pair.1.grid.scrolls ≤ (ops.foldl (follow start) pair).1.grid.scrolls := by
  induction ops generalizing pair with
  | nil => exact Nat.le_refl _
  | cons op rest ih => exact Nat.le_trans (scrolls_le_follow pair op) (ih _)

theorem grows_foldl {ops : List TextOp} (h : ∀ op ∈ ops, ∀ row col, op ≠ .locate row col)
    (pair : Console × Page) : pair.2.Grows (ops.foldl (follow start) pair).2 := by
  induction ops generalizing pair with
  | nil => exact .refl _
  | cons op rest ih =>
    rw [List.forall_mem_cons] at h
    exact (grows_onPage h.1 _ _ _ pair.2).trans (ih h.2 (follow start pair op))

/-- From a clear on, the rows of a console are those of an endless page from the number of scrolls
since the clear on, and so is the cursor. The window only moves down, and unless the cursor is
set no cell that was written is written again. -/
theorem window_on_page {console : Console} (hClear : console.Cleared)
    (hRows : 1 ≤ console.grid.rows) (hCols : 2 ≤ console.grid.cols) (ops : List TextOp) :
    let start := console.grid.scrolls
    let now := ops.foldl (follow start) (console, blank)
    let grid := now.1.grid
    let top := grid.scrolls - start
    start ≤ grid.scrolls ∧ grid.rows = console.grid.rows ∧ grid.cols = console.grid.cols ∧
    (∀ i < grid.rows, grid.rowBytes i = now.2.rowBytes grid.cols (top + i)) ∧
    now.2.row = top + grid.row ∧ now.2.col = grid.col ∧
    ∀ more : List TextOp,
      let later := more.foldl (follow start) now
      top ≤ later.1.grid.scrolls - start ∧
      ((∀ op ∈ more, ∀ row col, op ≠ .locate row col) → now.2.Grows later.2) := by
  intro start now grid top
  have hStart : Over start (console, blank) := shows_of_cleared hClear hRows hCols
  have hOver : Over start now := hStart.foldl ops
  have hDims : grid.dims = console.grid.dims := dims_foldl ops (console, blank)
  refine ⟨hOver.start_le, Grid.rows_eq_of_dims hDims, Grid.cols_eq_of_dims hDims, ?_,
    hOver.row_eq, hOver.col_eq, ?_⟩
  · intro i hi
    exact hOver.rowBytes_eq hi
  · intro more later
    refine ⟨Nat.sub_le_sub_right (scrolls_le_foldl more now) start, ?_⟩
    intro hMore
    exact grows_foldl hMore now

/-- Two rows of two cells. The text fills both, the cursor is moved while a scroll is owed, and the
wide character finds one cell left. -/
def crowded : List TextOp :=
  [.addBytes [0x61, 0x62, 0x63, 0x64], .locate 5 1, .addChar 0xb0a1]

theorem window_on_crowded_page :
    let console := Console.ofSize ⟨16, 32⟩
    let now := crowded.foldl (follow console.grid.scrolls) (console, blank)
    console.Cleared ∧ 1 ≤ console.grid.rows ∧ 2 ≤ console.grid.cols ∧
    (∀ i < now.1.grid.rows, now.1.grid.rowBytes i =
      now.2.rowBytes now.1.grid.cols (now.1.grid.scrolls - console.grid.scrolls + i)) ∧
    now.1.grid.scrolls = 2 ∧ now.1.grid.rows = 2 ∧
    now.2.rowBytes 2 2 = [0x00, 0x20] ∧ now.2.rowBytes 2 3 = [0xa1, 0xb0] := by
  intro console now
  have hClear : console.Cleared := .ofSize _
  have hRows : 1 ≤ console.grid.rows := by decide
  have hCols : 2 ≤ console.grid.cols := by decide
  refine ⟨hClear, hRows, hCols, (window_on_page hClear hRows hCols crowded).2.2.2.1, ?_⟩
  decide +kernel

end Page
end Handheld
