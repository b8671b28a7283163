import Handheld.Console.Basic
import Handheld.Proofs.Console.Bounds

/-! # Consoles in use

What can be done to a console from outside, and the consoles that can come of it. Each of them has
a page of the length its screen asks for, a grid of its font, and a cursor within the bounds.
-/
set_option autoImplicit false
namespace Handheld

inductive TextOp
  | addChar (code : UInt16)
  | addBytes (text : List UInt8)
  | locate (row col : Int)
  | scrollUp

def TextOp.onConsole (console : Console) : TextOp → Console
  | addChar code => console.addChar code
  | addBytes text => console.addBytes text
  | locate row col => console.locate row col
  | scrollUp => console.scrollUp

namespace Console

inductive Action
  | text (op : TextOp)
  | setFont (font : Font)
  | setScreen (size : PixelSize)
  | requestRefresh (mask : UInt8)
  | settlePending
  | setCell (i : Nat) (value : UInt8)
  | setCells (value : UInt8)

def Action.apply (console : Console) : Action → Console
  | text op => op.onConsole console
  | setFont font => console.setFont font
  | setScreen size => console.setScreen size
  | requestRefresh mask => console.requestRefresh mask
  | settlePending => console.settlePending
  | setCell i value => console.withGrid (console.grid.setCell i value)
  | setCells value => console.withGrid (console.grid.setCells value)

/-- The consoles that come of a new one by any actions. -/
inductive Reachable : Console → Prop
  | ofSize (size : PixelSize) : Reachable (ofSize size)
  | act {console : Console} (h : Reachable console) (action : Action) :
      Reachable (action.apply console)

/-- A console just cleared: a new one, or one whose screen or font was set. -/
inductive Cleared : Console → Prop
  | ofSize (size : PixelSize) : Cleared (ofSize size)
  | setScreen {console : Console} (h : Reachable console) (size : PixelSize) :
      Cleared (console.setScreen size)
  | setFont {console : Console} (h : Reachable console) (font : Font) :
      Cleared (console.setFont font)

structure Sound (console : Console) : Prop where
  grid : console.grid.Sound
  rows_eq : console.grid.rows = console.font.rows console.size
  cols_eq : console.grid.cols = console.font.columns console.size
  size_eq : console.grid.cells.size = console.size.textCells

variable {console : Console}

theorem Sound.withGrid (h : Sound console) {grid : Grid} (hDims : grid.dims = console.grid.dims)
    (hGrid : grid.Sound) : Sound (console.withGrid grid) where
  grid := hGrid
  rows_eq := (Grid.rows_eq_of_dims hDims).trans h.rows_eq
  cols_eq := (Grid.cols_eq_of_dims hDims).trans h.cols_eq
  size_eq := (Grid.size_eq_of_dims hDims).trans h.size_eq

theorem sound_of_home {font : Font} {size : PixelSize} {cells : Array UInt8}
    (hCells : cells.size = size.textCells) (scrolls : Nat) (pending : UInt8)
    (retired : Array (Array UInt8)) :
    Sound ⟨size, font, ⟨font.rows size, font.columns size, cells, 0, 0, scrolls⟩, pending,
      retired⟩ where
  grid :=
    { row_le := Nat.zero_le _
      col_lt := Nat.lt_of_lt_of_le Nat.zero_lt_one (Nat.le_max_right _ _)
      area_le := by
        rw [hCells, Nat.mul_comm]
        exact font.rows_mul_columns_le size }
  rows_eq := rfl
  cols_eq := rfl
  size_eq := hCells

theorem sound_ofSize (size : PixelSize) : Sound (ofSize size) := by
  apply sound_of_home
  exact Array.size_replicate

theorem Sound.setFont (h : Sound console) (font : Font) : Sound (console.setFont font) := by
  apply sound_of_home
  rw [Array.size_map]
  exact h.size_eq

theorem Sound.setScreen (h : Sound console) (size : PixelSize) :
    Sound (console.setScreen size) := by
  rw [Console.setScreen]
  split
  · exact ⟨(h.setFont .big).grid, (h.setFont .big).rows_eq, (h.setFont .big).cols_eq,
      (h.setFont .big).size_eq⟩
  · apply sound_of_home
    exact Array.size_replicate

theorem Sound.onConsole (h : Sound console) (op : TextOp) : Sound (op.onConsole console) := by
  cases op with
  | addChar code => exact h.withGrid (Grid.dims_addChar _ code) (h.grid.addChar code)
  | addBytes text => exact h.withGrid (Grid.dims_addBytes _ text) (h.grid.addBytes text)
  | locate row col => exact h.withGrid (Grid.dims_locate _ row col) (h.grid.locate row col)
  | scrollUp => exact h.withGrid (Grid.dims_moveUp _) h.grid.moveUp

theorem Sound.apply (h : Sound console) (action : Action) : Sound (action.apply console) := by
  cases action with
  | text op => exact h.onConsole op
  | setFont font => exact h.setFont font
  | setScreen size => exact h.setScreen size
  | requestRefresh mask => exact ⟨h.grid, h.rows_eq, h.cols_eq, h.size_eq⟩
  | settlePending => exact ⟨h.grid, h.rows_eq, h.cols_eq, h.size_eq⟩
  | setCell i value =>
    have hDims := Grid.dims_setCell console.grid i value
    exact h.withGrid hDims
      ⟨h.grid.row_le, h.grid.col_lt, Grid.area_le_of_dims hDims h.grid.area_le⟩
  | setCells value =>
    have hDims := Grid.dims_setCells console.grid value
    exact h.withGrid hDims
      ⟨h.grid.row_le, h.grid.col_lt, Grid.area_le_of_dims hDims h.grid.area_le⟩

theorem Reachable.sound (h : Reachable console) : Sound console := by
  induction h with
  | ofSize size => exact sound_ofSize size
  | act _ action ih => exact ih.apply action

theorem Cleared.sound (h : Cleared console) : Sound console := by
  cases h with
  | ofSize size => exact sound_ofSize size
  | setScreen hReachable size => exact hReachable.sound.setScreen size
  | setFont hReachable font => exact hReachable.sound.setFont font

theorem zero_setFont (console : Console) (font : Font) :
    ∀ value ∈ (console.setFont font).grid.cells, value = 0 := by
  intro value hValue
  obtain ⟨_, _, rfl⟩ := Array.mem_map.mp hValue
  rfl

theorem zero_ofSize (size : PixelSize) : ∀ value ∈ (ofSize size).grid.cells, value = 0 :=
  fun _ hValue => Array.eq_of_mem_replicate hValue

theorem setScreen_blank (console : Console) (size : PixelSize) :
    (console.setScreen size).pending = RefreshMask.nothing ∧
      ∀ value ∈ (console.setScreen size).grid.cells, value = 0 := by
  rw [setScreen]
  split
  · exact ⟨rfl, zero_setFont console .big⟩
  · exact ⟨rfl, zero_ofSize size⟩

theorem Cleared.blank (h : Cleared console) :
    console.grid.row = 0 ∧ console.grid.col = 0 ∧ ∀ value ∈ console.grid.cells, value = 0 := by
  cases h with
  | ofSize size => exact ⟨rfl, rfl, zero_ofSize size⟩
  | @setFont console _ font => exact ⟨rfl, rfl, zero_setFont console font⟩
  | @setScreen console _ size =>
    refine ⟨?_, ?_, (setScreen_blank console size).2⟩
    all_goals
      rw [Console.setScreen]
      split
      all_goals rfl

theorem foldl_addChar (console : Console) (codes : List UInt16) :
    codes.foldl addChar console = console.withGrid (codes.foldl Grid.addChar console.grid) := by
  induction codes generalizing console with
  | nil => rfl
  | cons code codes ih => exact ih (console.addChar code)

theorem addBytes_eq (console : Console) (text : List UInt8) :
    console.addBytes text = (charCodes text).foldl addChar console :=
  (console.foldl_addChar (charCodes text)).symm

structure SamePage (console after : Console) : Prop where
  size_eq : after.size = console.size
  view_eq : after.pages.view = console.pages.view

theorem samePage_withGrid {grid : Grid} (hDims : grid.dims = console.grid.dims) :
    SamePage console (console.withGrid grid) where
  size_eq := rfl
  view_eq := congrArg (PageView.mk console.retired.size) (Grid.size_eq_of_dims hDims)

theorem samePage_setFont (console : Console) (font : Font) :
    SamePage console (console.setFont font) where
  size_eq := rfl
  view_eq := congrArg (PageView.mk console.retired.size) Array.size_map

theorem samePage_apply {action : Action}
    (h : ∀ size, action = .setScreen size → size = console.size) :
    SamePage console (action.apply console) := by
  cases action with
  | text op =>
    cases op with
    | addChar code => exact samePage_withGrid (Grid.dims_addChar _ code)
    | addBytes text => exact samePage_withGrid (Grid.dims_addBytes _ text)
    | locate row col => exact samePage_withGrid (Grid.dims_locate _ row col)
    | scrollUp => exact samePage_withGrid (Grid.dims_moveUp _)
  | setFont font => exact samePage_setFont console font
  | setScreen size =>
    have hSame := samePage_setFont console .big
    rw [Action.apply, Console.setScreen, if_pos (h size rfl)]
    exact ⟨hSame.size_eq, hSame.view_eq⟩
  | requestRefresh mask => exact ⟨rfl, rfl⟩
  | settlePending => exact ⟨rfl, rfl⟩
  | setCell i value => exact samePage_withGrid (Grid.dims_setCell _ i value)
  | setCells value => exact samePage_withGrid (Grid.dims_setCells _ value)

theorem size_setScreen (console : Console) (size : PixelSize) :
    (console.setScreen size).size = size := by
  rw [setScreen]
  split
  · rename_i hSame
    exact hSame.symm
  · rfl

theorem setScreen_of_ne {size : PixelSize} (h : size ≠ console.size) :
    (console.setScreen size).size = size ∧
      (console.setScreen size).pages.view = ⟨console.retired.size + 1, size.textCells⟩ ∧
      (console.setScreen size).grid.cells = Array.replicate size.textCells 0 := by
  rw [Console.setScreen, if_neg h]
  refine ⟨rfl, ?_, rfl⟩
  simp [pages, TextPages.view, Grid.blank]

end Console
end Handheld
