import Handheld.Display.Drawing

/-! # Fonts

A font fixes the cell of a character and with it the rows and columns of a screen. Text pages are
sized for the small font, whose grid has the most cells.
-/
set_option autoImplicit false
namespace Handheld

inductive Font
  | big
  | small
  deriving DecidableEq

namespace Font

/-- Zero means the big font and any other number the small one. -/
def ofCode (code : Int) : Font := if code = 0 then big else small

def cellWidth : Font → Nat
  | big => 8
  | small => 6

def cellHeight : Font → Nat
  | big => 16
  | small => 13

/-- The distance of the first cell from the left edge, and from the upper edge. -/
def margin : Font → Int
  | big => 0
  | small => 1

def columns (font : Font) (size : PixelSize) : Nat := size.width / font.cellWidth

def rows (font : Font) (size : PixelSize) : Nat := size.height / font.cellHeight

end Font

def PixelSize.textCells (size : PixelSize) : Nat := Font.small.columns size * Font.small.rows size

theorem Font.rows_mul_columns_le (font : Font) (size : PixelSize) :
    font.rows size * font.columns size ≤ size.textCells := by
  rw [Nat.mul_comm]
  apply Nat.mul_le_mul
  · cases font <;> simp only [columns, cellWidth] <;> omega
  · cases font <;> simp only [rows, cellHeight] <;> omega

end Handheld
