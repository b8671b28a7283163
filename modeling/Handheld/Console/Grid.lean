/-! # The character grid

A grid is the part of a text page that a font shows, packed row by row from the start of the page,
with a cursor and a count of the scrolls so far. The cursor may stand one row below the grid: a
row that fills up scrolls only when the next character arrives, whereas a line break scrolls at
once.
-/
set_option autoImplicit false
namespace Handheld

structure Grid where
  rows : Nat
  cols : Nat
  cells : Array UInt8
  row : Nat
  col : Nat
  scrolls : Nat

namespace Grid

def blank (rows cols cells : Nat) : Grid := ⟨rows, cols, Array.replicate cells 0, 0, 0, 0⟩

def setCell (grid : Grid) (i : Nat) (value : UInt8) : Grid :=
  { grid with cells := grid.cells.setIfInBounds i value }

def setCells (grid : Grid) (value : UInt8) : Grid :=
  { grid with cells := grid.cells.map fun _ => value }

def put (grid : Grid) (value : UInt8) : Grid :=
  grid.setCell (grid.cols * grid.row + grid.col) value

def fill (grid : Grid) (value : UInt8) : Grid := { grid.put value with col := grid.col + 1 }

def shown (grid : Grid) : Nat := min (grid.cols * grid.rows) grid.cells.size

/-- Moves all rows up by one and the cursor with them; the last row becomes zero. On the first row
there is nothing to scroll. -/
def moveUp (grid : Grid) : Grid :=
  if grid.row = 0 then grid
  else
    let kept := grid.shown - grid.cols
    { grid with
      cells := grid.cells.mapIdx fun i value =>
        if i < kept then grid.cells.getD (i + (grid.shown - kept)) 0
        else if i < grid.shown then 0
        else value
      row := grid.row - 1
      scrolls := grid.scrolls + 1 }

def settle (grid : Grid) : Grid := if grid.rows ≤ grid.row then grid.moveUp else grid

def nextRow (grid : Grid) : Grid := { grid with row := grid.row + 1, col := 0 }

def newline (grid : Grid) : Grid := grid.nextRow.settle

def wrap (grid : Grid) : Grid := if grid.cols ≤ grid.col then grid.nextRow else grid

/-- A double-width character needs two cells of one row: where only one is left it gets a blank. -/
def makeRoom (grid : Grid) : Grid :=
  if grid.cols ≤ grid.col + 1 then (grid.put 0x20).newline else grid

def addWide (grid : Grid) (lead follower : UInt8) : Grid :=
  ((grid.makeRoom.fill lead).fill follower).wrap

def addNarrow (grid : Grid) (value : UInt8) : Grid :=
  if value = 0x0a then grid.newline
  else if value = 0x0d then grid
  else (grid.fill value).wrap

/-- Adds a character code: one byte, or two bytes with the first one low. -/
def addChar (grid : Grid) (code : UInt16) : Grid :=
  if 0xff < code.toNat then
    grid.settle.addWide (UInt8.ofNat code.toNat) (UInt8.ofNat (code.toNat / 256))
  else grid.settle.addNarrow (UInt8.ofNat code.toNat)

/-- Moves the cursor; a coordinate outside the grid stays as it was. -/
def locate (grid : Grid) (row col : Int) : Grid :=
  { grid with
    row := if 0 ≤ row ∧ row < grid.rows then row.toNat else grid.row
    col := if 0 ≤ col ∧ col < grid.cols then col.toNat else grid.col }

def rowBytes (grid : Grid) (row : Nat) : List UInt8 :=
  (grid.cells.extract (row * grid.cols) (row * grid.cols + grid.cols)).toList

end Grid

def wideCode (lead follower : UInt8) : UInt16 := UInt16.ofNat (lead.toNat + 256 * follower.toNat)

/-- The character codes in a text: a byte from 0x80 on takes the byte after it as the second half
of its character, and a blank at the end of the text. -/
def charCodes : List UInt8 → List UInt16
  | [] => []
  | [value] =>
    if 0x80 ≤ value then [wideCode value 0x20] else [UInt16.ofNat value.toNat]
  | value :: next :: rest =>
    if 0x80 ≤ value then wideCode value next :: charCodes rest
    else UInt16.ofNat value.toNat :: charCodes (next :: rest)

def Grid.addBytes (grid : Grid) (text : List UInt8) : Grid := (charCodes text).foldl addChar grid

end Handheld
