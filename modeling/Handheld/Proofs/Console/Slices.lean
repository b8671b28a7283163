import Handheld.Console.Refresh
import Handheld.Proofs.Console.Actions
import Handheld.Proofs.Machine.Fitting

/-! # Slices of a page

The operations of a console once more, with every place computed in 64-bit words and with every
slice of the page checked: an operation whose slice is not within the page has no result. On screens
whose sides are 32-bit numbers no number wraps and no slice is out of range, so that the checked
operations are the plain ones.
-/
set_option autoImplicit false
namespace Handheld

def wrapped (n : Nat) : Nat := n % 0x10000000000000000

theorem wrapped_of_lt {n : Nat} (h : n < 0x10000000000000000) : wrapped n = n := Nat.mod_eq_of_lt h

namespace Slice
variable {cells : Array UInt8} {start stop target : Nat}

def copyWithin? (cells : Array UInt8) (start stop target : Nat) : Option (Array UInt8) :=
  if start ≤ stop ∧ stop ≤ cells.size ∧ target + (stop - start) ≤ cells.size then
    some <| cells.mapIdx fun i value =>
      if target ≤ i ∧ i < target + (stop - start) then cells.getD (start + (i - target)) 0
      else value
  else none

def fill? (cells : Array UInt8) (start stop : Nat) (value : UInt8) : Option (Array UInt8) :=
  if start ≤ stop ∧ stop ≤ cells.size then
    some <| cells.mapIdx fun i old => if start ≤ i ∧ i < stop then value else old
  else none

def read? (cells : Array UInt8) (start stop : Nat) : Option (List UInt8) :=
  if start ≤ stop ∧ stop ≤ cells.size then some (cells.extract start stop).toList else none

theorem copyWithin?_of_le (hStart : start ≤ stop) (hStop : stop ≤ cells.size)
    (hTarget : target ≤ start) :
    copyWithin? cells start stop target = some (cells.mapIdx fun i value =>
      if target ≤ i ∧ i < target + (stop - start) then cells.getD (start + (i - target)) 0
      else value) :=
  if_pos ⟨hStart, hStop, by omega⟩

theorem fill?_of_le (hStart : start ≤ stop) (hStop : stop ≤ cells.size) (value : UInt8) :
    fill? cells start stop value =
      some (cells.mapIdx fun i old => if start ≤ i ∧ i < stop then value else old) :=
  if_pos ⟨hStart, hStop⟩

theorem read?_of_le (hStart : start ≤ stop) (hStop : stop ≤ cells.size) :
    read? cells start stop = some (cells.extract start stop).toList :=
  if_pos ⟨hStart, hStop⟩

end Slice

namespace Grid

/-- The place under the cursor, as words compute it. -/
def place (grid : Grid) : Nat := wrapped (wrapped (grid.cols * grid.row) + grid.col)

def putAtPlace (grid : Grid) (value : UInt8) : Grid := grid.setCell grid.place value

def fillAtPlace (grid : Grid) (value : UInt8) : Grid :=
  { grid.putAtPlace value with col := grid.col + 1 }

def moveUp? (grid : Grid) : Option Grid :=
  if grid.row = 0 then some grid
  else do
    let total := min (wrapped (grid.cols * grid.rows)) grid.cells.size
    let tail := total - grid.cols
    let moved ← Slice.copyWithin? grid.cells (total - tail) total 0
    let cells ← Slice.fill? moved tail total 0
    return { grid with cells, row := grid.row - 1, scrolls := grid.scrolls + 1 }

def settle? (grid : Grid) : Option Grid :=
  if grid.rows ≤ grid.row then grid.moveUp? else some grid

def newline? (grid : Grid) : Option Grid := grid.nextRow.settle?

def makeRoom? (grid : Grid) : Option Grid :=
  if grid.cols ≤ grid.col + 1 then (grid.putAtPlace 0x20).newline? else some grid

def addWide? (grid : Grid) (lead follower : UInt8) : Option Grid := do
  let room ← grid.makeRoom?
  return ((room.fillAtPlace lead).fillAtPlace follower).wrap

def addNarrow? (grid : Grid) (value : UInt8) : Option Grid :=
  if value = 0x0a then grid.newline?
  else if value = 0x0d then some grid
  else some (grid.fillAtPlace value).wrap

def addChar? (grid : Grid) (code : UInt16) : Option Grid := do
  let settled ← grid.settle?
  if 0xff < code.toNat then
    settled.addWide? (UInt8.ofNat code.toNat) (UInt8.ofNat (code.toNat / 256))
  else settled.addNarrow? (UInt8.ofNat code.toNat)

def addBytes? (grid : Grid) (text : List UInt8) : Option Grid :=
  (charCodes text).foldlM addChar? grid

def rowBytes? (grid : Grid) (row : Nat) : Option (List UInt8) :=
  let start := min (wrapped (row * grid.cols)) grid.cells.size
  let stop := min (wrapped (start + grid.cols)) grid.cells.size
  Slice.read? grid.cells start stop

/-- Places in the grid and in its page are far below the words that compute them. -/
structure Small (grid : Grid) : Prop where
  rows_lt : grid.rows < 0x100000000
  cols_lt : grid.cols < 0x80000000
  size_lt : grid.cells.size < 0x8000000000000000

variable {grid : Grid}

theorem Small.of_dims {other : Grid} (h : Small grid) (hDims : other.dims = grid.dims) :
    Small other where
  rows_lt := rows_eq_of_dims hDims ▸ h.rows_lt
  cols_lt := cols_eq_of_dims hDims ▸ h.cols_lt
  size_lt := size_eq_of_dims hDims ▸ h.size_lt

theorem Small.wrapped_mul (h : Small grid) {row : Nat} (hRow : row < 0x100000000) :
    wrapped (grid.cols * row) = grid.cols * row := by
  have hArea := Nat.mul_lt_mul'' h.cols_lt hRow
  exact wrapped_of_lt (by omega)

theorem Small.place_eq (h : Small grid) (hRow : grid.row < max grid.rows 1)
    (hCol : grid.col < 0x100000000) : grid.place = grid.cols * grid.row + grid.col := by
  have hLast : grid.row < 0x100000000 := by
    have hRows := h.rows_lt
    omega
  have hArea := Nat.mul_lt_mul'' h.cols_lt hLast
  rw [place, h.wrapped_mul hLast]
  exact wrapped_of_lt (by omega)

theorem Small.fillAtPlace_eq (h : Small grid) (hRow : grid.row < max grid.rows 1)
    (hCol : grid.col < 0x100000000) (value : UInt8) : grid.fillAtPlace value = grid.fill value := by
  rw [fillAtPlace, putAtPlace, h.place_eq hRow hCol]
  rfl

theorem Small.col_lt (h : Small grid) (hCol : grid.col < max grid.cols 1) :
    grid.col < 0x80000000 := by
  have hCols := h.cols_lt
  omega

theorem Small.moveUp? (h : Small grid) : grid.moveUp? = some grid.moveUp := by
  rw [Grid.moveUp?, Grid.moveUp]
  split
  · rfl
  · rw [h.wrapped_mul h.rows_lt]
    have hShown : grid.shown ≤ grid.cells.size := Nat.min_le_right _ _
    have hMoved := Slice.copyWithin?_of_le (Nat.sub_le grid.shown (grid.shown - grid.cols)) hShown
      (Nat.zero_le _)
    rw [← shown]
    simp only [hMoved, Option.bind_eq_bind, Option.bind_some]
    rw [Slice.fill?_of_le (Nat.sub_le _ _) (by simpa using hShown)]
    simp only [Option.bind_some, Option.pure_def, Option.some.injEq, Grid.mk.injEq, true_and,
      and_true]
    ext i hBound hBound'
    · simp
    · simp only [Array.getElem_mapIdx]
      grind

theorem Small.settle? (h : Small grid) : grid.settle? = some grid.settle := by
  rw [Grid.settle?, Grid.settle]
  split
  · exact h.moveUp?
  · rfl

theorem Small.newline? (h : Small grid) : grid.newline? = some grid.newline :=
  Small.settle? (h.of_dims grid.dims_nextRow)

theorem Small.makeRoom? (h : Small grid) (hSettled : grid.Settled) :
    grid.makeRoom? = some grid.makeRoom := by
  have hCol := h.col_lt hSettled.col_lt
  rw [Grid.makeRoom?, Grid.makeRoom, putAtPlace, h.place_eq hSettled.row_lt (by omega), ← put]
  split
  · exact Small.newline? (h.of_dims (grid.dims_put _))
  · rfl

theorem Small.addWide? (h : Small grid) (hSettled : grid.Settled) (lead follower : UInt8) :
    grid.addWide? lead follower = some (grid.addWide lead follower) := by
  have hRoom := hSettled.makeRoom
  have hSmall := h.of_dims grid.dims_makeRoom
  have hCol := hSmall.col_lt hRoom.col_lt
  have hLead := hSmall.fillAtPlace_eq hRoom.row_lt (by omega) lead
  have hFilled := hSmall.of_dims (grid.makeRoom.dims_fill lead)
  have hRow : (grid.makeRoom.fill lead).row < max (grid.makeRoom.fill lead).rows 1 := by
    rw [row_fill, rows_eq_of_dims (grid.makeRoom.dims_fill lead)]
    exact hRoom.row_lt
  have hNext : (grid.makeRoom.fill lead).col < 0x100000000 := by
    simp only [fill]
    omega
  have hFollower := hFilled.fillAtPlace_eq hRow hNext follower
  simp only [Grid.addWide?, h.makeRoom? hSettled, Option.bind_eq_bind, Option.bind_some, hLead,
    hFollower]
  rfl

theorem Small.addNarrow? (h : Small grid) (hSettled : grid.Settled) (value : UInt8) :
    grid.addNarrow? value = some (grid.addNarrow value) := by
  have hCol := h.col_lt hSettled.col_lt
  rw [Grid.addNarrow?, Grid.addNarrow, h.fillAtPlace_eq hSettled.row_lt (by omega), h.newline?]
  split
  · rfl
  · split
    · rfl
    · rfl

theorem Small.addChar? (h : Small grid) (hSound : grid.Sound) (code : UInt16) :
    grid.addChar? code = some (grid.addChar code) := by
  have hSettled := hSound.settle
  have hSmall := h.of_dims grid.dims_settle
  simp only [Grid.addChar?, h.settle?, Option.bind_eq_bind, Option.bind_some, Grid.addChar]
  split
  · exact hSmall.addWide? hSettled _ _
  · exact hSmall.addNarrow? hSettled _

theorem Small.addBytes? (h : Small grid) (hSound : grid.Sound) (text : List UInt8) :
    grid.addBytes? text = some (grid.addBytes text) := by
  rw [Grid.addBytes?, Grid.addBytes]
  induction charCodes text generalizing grid with
  | nil => rfl
  | cons code rest ih =>
    simp only [List.foldlM_cons, h.addChar? hSound, Option.bind_eq_bind, Option.bind_some,
      List.foldl_cons]
    exact ih (h.of_dims (grid.dims_addChar code)) (hSound.addChar code)

theorem Small.exists_rowBytes? (h : Small grid) (row : Nat) :
    ∃ text, grid.rowBytes? row = some text := by
  have hSize := h.size_lt
  have hCols := h.cols_lt
  have hStart : min (wrapped (row * grid.cols)) grid.cells.size ≤ grid.cells.size :=
    Nat.min_le_right _ _
  simp only [Grid.rowBytes?]
  generalize min (wrapped (row * grid.cols)) grid.cells.size = start at hStart ⊢
  rw [wrapped_of_lt (by omega)]
  exact ⟨_, Slice.read?_of_le (by omega) (Nat.min_le_right _ _)⟩

theorem Small.rowBytes? (h : Small grid) (hSound : grid.Sound) {row : Nat}
    (hRow : row < grid.rows) : grid.rowBytes? row = some (grid.rowBytes row) := by
  have hSize := h.size_lt
  have hEnd : row * grid.cols + grid.cols ≤ grid.cells.size :=
    calc row * grid.cols + grid.cols = grid.cols * (row + 1) := by
          rw [Nat.mul_comm row, Nat.mul_succ]
      _ ≤ grid.cols * grid.rows := Nat.mul_le_mul_left _ hRow
      _ ≤ grid.cells.size := hSound.area_le
  have hStart : min (wrapped (row * grid.cols)) grid.cells.size = row * grid.cols := by
    rw [wrapped_of_lt (by omega)]
    omega
  simp only [Grid.rowBytes?, hStart]
  rw [wrapped_of_lt (by omega), Nat.min_eq_left hEnd, Slice.read?_of_le (by omega) hEnd]
  rfl

end Grid

def TextOp.onConsole? (console : Console) : TextOp → Option Console
  | addChar code => (console.grid.addChar? code).map console.withGrid
  | addBytes text => (console.grid.addBytes? text).map console.withGrid
  | locate row col => some (console.locate row col)
  | scrollUp => console.grid.moveUp?.map console.withGrid

namespace Console

def Action.perform? (console : Console) : Action → Option Console
  | text op => op.onConsole? console
  | action => some (action.apply console)

def drawRow? (console : Console) (row : Nat) : Option DrawCall :=
  (console.grid.rowBytes? row).map (.line console.font.margin (rowTop console.font row))

def refreshCalls? (console : Console) (mask : UInt8) : Option (List DrawCall) :=
  if mask = RefreshMask.nothing then some []
  else do
    let asked := (List.range console.grid.rows).filter (RefreshMask.draws mask)
    let rows ← asked.mapM console.drawRow?
    return (if mask = RefreshMask.everything then [.mode clearMode, .rect 0 0 console.size] else [])
      ++ .mode (textMode console.font) :: rows ++ [.changed]

def Action.format : PixelSize × Font → Action → PixelSize × Font
  | (size, _), setFont font => (size, font)
  | _, setScreen size => (size, .big)
  | format, _ => format

theorem format_apply (console : Console) (action : Action) :
    ((action.apply console).size, (action.apply console).font) =
      Action.format (console.size, console.font) action := by
  cases action with
  | setScreen size =>
    refine Prod.ext (size_setScreen console size) ?_
    rw [Action.apply, Console.setScreen]
    split
    · rfl
    · rfl
  | text op => cases op <;> rfl
  | setFont | requestRefresh | settlePending | setCell | setCells => rfl

variable {console : Console}

theorem Sound.small (h : Sound console) (hSize : console.size.InRange) : console.grid.Small where
  rows_lt := by
    have hHeight := hSize.height_lt
    rw [h.rows_eq, Font.rows]
    exact Nat.lt_of_le_of_lt (Nat.div_le_self _ _) hHeight
  cols_lt := by
    have hWidth := hSize.width_lt
    rw [h.cols_eq, Font.columns]
    cases console.font with
    | big => simp only [Font.cellWidth]; omega
    | small => simp only [Font.cellWidth]; omega
  size_lt := by
    rw [h.size_eq]
    exact hSize.textCells_lt

theorem Sound.perform? (h : Sound console) (hSize : console.size.InRange) (action : Action) :
    action.perform? console = some (action.apply console) := by
  have hSmall := h.small hSize
  cases action with
  | text op =>
    cases op with
    | addChar code =>
      rw [Action.perform?, TextOp.onConsole?, hSmall.addChar? h.grid]
      rfl
    | addBytes text =>
      rw [Action.perform?, TextOp.onConsole?, hSmall.addBytes? h.grid]
      rfl
    | locate row col => rfl
    | scrollUp =>
      rw [Action.perform?, TextOp.onConsole?, hSmall.moveUp?]
      rfl
  | setFont | setScreen | requestRefresh | settlePending | setCell | setCells => rfl

theorem mapM_eq_some_map {α β : Type} {f : α → Option β} {g : α → β} {items : List α}
    (h : ∀ item ∈ items, f item = some (g item)) : items.mapM f = some (items.map g) := by
  induction items with
  | nil => rfl
  | cons item rest ih =>
    rw [List.mapM_cons, h item List.mem_cons_self,
      ih fun other hOther => h other (List.mem_cons_of_mem item hOther)]
    rfl

theorem Sound.refreshCalls? (h : Sound console) (hSize : console.size.InRange) (mask : UInt8) :
    console.refreshCalls? mask = some (console.refreshCalls mask) := by
  have hRows : ((List.range console.grid.rows).filter (RefreshMask.draws mask)).mapM
      console.drawRow? = some (console.drawRows mask) := by
    refine mapM_eq_some_map fun row hRow => ?_
    have hShown : row < console.grid.rows := List.mem_range.mp (List.mem_filter.mp hRow).1
    rw [drawRow?, (h.small hSize).rowBytes? h.grid hShown]
    rfl
  simp only [Console.refreshCalls?, Console.refreshCalls, hRows]
  split
  · rfl
  · rfl

/-- What stays true of a console between the actions. -/
structure Ranged (console : Console) : Prop where
  sound : Sound console
  size : console.size.InRange

theorem Ranged.apply (h : Ranged console) {action : Action}
    (hSize : ∀ size, action = .setScreen size → size.InRange) : Ranged (action.apply console) where
  sound := h.sound.apply action
  size := by
    have hFormat := congrArg Prod.fst (format_apply console action)
    simp only at hFormat
    rw [hFormat]
    cases action with
    | setScreen size => exact hSize size rfl
    | text | setFont | requestRefresh | settlePending | setCell | setCells => exact h.size

theorem Ranged.foldlM_perform? (h : Ranged console) {actions : List Action}
    (hSizes : ∀ size, .setScreen size ∈ actions → size.InRange) :
    actions.foldlM Action.perform? console = some (actions.foldl Action.apply console) ∧
      Ranged (actions.foldl Action.apply console) := by
  induction actions generalizing console with
  | nil => exact ⟨rfl, h⟩
  | cons action rest ih =>
    have hNext : Ranged (action.apply console) :=
      h.apply fun size hAction => hSizes size (hAction ▸ List.mem_cons_self)
    rw [List.foldlM_cons, h.sound.perform? h.size]
    exact ih hNext fun size hMem => hSizes size (List.mem_cons_of_mem action hMem)

theorem format_foldl (console : Console) (actions : List Action) :
    ((actions.foldl Action.apply console).size, (actions.foldl Action.apply console).font) =
      actions.foldl Action.format (console.size, console.font) := by
  induction actions generalizing console with
  | nil => rfl
  | cons action rest ih => rw [List.foldl_cons, ih, format_apply, List.foldl_cons]

/-- A new console through any actions, on screens whose sides are 32-bit numbers and that may be
smaller than a cell: no slice is out of range on the way nor in what can be read or drawn of the
console then, and its numbers are those of the screen and the font that were set last. -/
theorem ranged_of_actions {size : PixelSize} (hSize : size.InRange) {actions : List Action}
    (hSizes : ∀ size, .setScreen size ∈ actions → size.InRange) :
    ∃ console,
      actions.foldlM Action.perform? (ofSize size) = some console ∧
      console = actions.foldl Action.apply (ofSize size) ∧
      (console.size, console.font) = actions.foldl Action.format (size, .big) ∧
      console.grid.cells.size = console.size.width / 6 * (console.size.height / 13) ∧
      console.grid.cols = console.size.width / console.font.cellWidth ∧
      console.grid.rows = console.size.height / console.font.cellHeight ∧
      console.grid.rows * console.grid.cols ≤ console.grid.cells.size ∧
      console.grid.col < max console.grid.cols 1 ∧
      console.grid.row ≤ max console.grid.rows 1 ∧
      (∀ row, ∃ text, console.grid.rowBytes? row = some text) ∧
      (∀ row < console.grid.rows, console.grid.rowBytes? row = some (console.grid.rowBytes row)) ∧
      ∀ mask, console.refreshCalls? mask = some (console.refreshCalls mask) := by
  have hNew : Ranged (ofSize size) := ⟨sound_ofSize size, hSize⟩
  obtain ⟨hRun, hRanged⟩ := hNew.foldlM_perform? hSizes
  have hSound := hRanged.sound
  have hSmall := hSound.small hRanged.size
  refine ⟨_, hRun, rfl, format_foldl (ofSize size) actions, hSound.size_eq, hSound.cols_eq,
    hSound.rows_eq, ?_, hSound.grid.col_lt, hSound.grid.row_le, hSmall.exists_rowBytes?, ?_, ?_⟩
  · rw [Nat.mul_comm]
    exact hSound.grid.area_le
  · intro row hRow
    exact hSmall.rowBytes? hSound.grid hRow
  · exact hSound.refreshCalls? hRanged.size

/-- Text on a screen without a cell, then on one with a row of two small cells and no big one. -/
def crampedActions : List Action :=
  [.text (.addBytes [0x61, 0x62, 0x0a, 0xb0, 0xa1]), .text .scrollUp, .setScreen ⟨13, 14⟩,
    .text (.addChar 0xa1b0), .setFont .small, .text (.addBytes [0x61, 0x62, 0x63]),
    .text (.locate 0 1), .requestRefresh 0x7f]

theorem ranged_of_crampedActions :
    (⟨4, 4⟩ : PixelSize).InRange ∧
    (∀ size, .setScreen size ∈ crampedActions → size.InRange) ∧
    ∃ console, crampedActions.foldlM Action.perform? (ofSize ⟨4, 4⟩) = some console ∧
      (console.size, console.font) = (⟨13, 14⟩, .small) ∧
      console.grid.cells.size = 2 ∧ console.grid.rows * console.grid.cols = 2 ∧
      (∃ text, console.grid.rowBytes? 0x8000000000000000 = some text) ∧
      console.refreshCalls? 0x7f =
        some [.mode (textMode .small), .line 1 1 [0x63, 0x00], .changed] := by
  have hSize : (⟨4, 4⟩ : PixelSize).InRange := ⟨by decide, by decide⟩
  have hSizes : ∀ size, .setScreen size ∈ crampedActions → size.InRange := by
    intro size hMem
    simp only [crampedActions, List.mem_cons, List.not_mem_nil, Action.setScreen.injEq,
      reduceCtorEq, false_or, or_false] at hMem
    subst hMem
    exact ⟨by decide, by decide⟩
  obtain ⟨console, hRun, hLast, hFormat, hCells, hCols, hRows, -, -, -, hRead, -, hDraw⟩ :=
    ranged_of_actions hSize hSizes
  have hShape : (console.size, console.font) = (⟨13, 14⟩, .small) := hFormat.trans (by decide)
  obtain ⟨hScreen, hFont⟩ := Prod.ext_iff.mp hShape
  simp only at hScreen hFont
  rw [hScreen] at hCells
  rw [hScreen, hFont] at hCols hRows
  refine ⟨hSize, hSizes, console, hRun, hShape, hCells, ?_, hRead _, ?_⟩
  · rw [hRows, hCols]
    decide
  · rw [hDraw, hLast]
    decide +kernel

end Console
end Handheld
