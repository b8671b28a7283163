import Handheld.Console.Font
import Handheld.Console.Grid
import Handheld.Memory.Pages

/-! # The text console

A console keeps the text of a screen on its live page and remembers which rows still have to be
drawn. Requests to draw are masks whose highest bit stands for the first row; a zero bit asks for
the row.
-/
set_option autoImplicit false
namespace Handheld

namespace RefreshMask

def nothing : UInt8 := 0xff

/-- Asks for every row on a cleared screen. -/
def everything : UInt8 := 0x00

/-- Rows from the ninth on have no bit and are always asked for. -/
def draws (mask : UInt8) (row : Nat) : Bool := decide (8 ≤ row) || !mask.toNat.testBit (7 - row)

def only (row : Nat) : UInt8 := UInt8.ofNat (0xff - 0x80 >>> row)

end RefreshMask

structure Console where
  size : PixelSize
  font : Font
  grid : Grid
  pending : UInt8
  retired : Array (Array UInt8)

namespace Console

def ofSize (size : PixelSize) : Console where
  size := size
  font := .big
  grid := .blank (Font.big.rows size) (Font.big.columns size) size.textCells
  pending := RefreshMask.nothing
  retired := #[]

def pages (console : Console) : TextPages := ⟨console.retired, console.grid.cells⟩

def withPages (console : Console) (pages : TextPages) : Console :=
  { console with
    grid := { console.grid with cells := pages.live }
    retired := pages.retired }

def withGrid (console : Console) (grid : Grid) : Console := { console with grid }

def setFont (console : Console) (font : Font) : Console :=
  { console with
    font := font
    grid :=
      { rows := font.rows console.size
        cols := font.columns console.size
        cells := console.grid.cells.map fun _ => 0
        row := 0
        col := 0
        scrolls := console.grid.scrolls } }

/-- Fits the console to a screen: on a new size it turns to a page of that size, on the old one it
clears its page. Nothing is left to draw. -/
def setScreen (console : Console) (size : PixelSize) : Console :=
  if size = console.size then { console.setFont .big with pending := RefreshMask.nothing }
  else
    { size := size
      font := .big
      grid :=
        { Grid.blank (Font.big.rows size) (Font.big.columns size) size.textCells with
          scrolls := console.grid.scrolls }
      pending := RefreshMask.nothing
      retired := console.retired.push console.grid.cells }

def addChar (console : Console) (code : UInt16) : Console :=
  console.withGrid (console.grid.addChar code)

def addBytes (console : Console) (text : List UInt8) : Console :=
  console.withGrid (console.grid.addBytes text)

def scrollUp (console : Console) : Console := console.withGrid console.grid.moveUp

def locate (console : Console) (row col : Int) : Console :=
  console.withGrid (console.grid.locate row col)

def requestRefresh (console : Console) (mask : UInt8) : Console :=
  { console with pending := console.pending &&& mask }

def isDirty (console : Console) : Bool := console.pending != RefreshMask.nothing

def settlePending (console : Console) : Console := { console with pending := RefreshMask.nothing }

end Console
end Handheld
