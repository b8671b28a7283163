import Handheld.Console.Font
import Handheld.Display.Surface

/-! # The line display

A display without pixels: it keeps the last text drawn on each of its lines. Which line a text
belongs to follows from the height at which it is drawn and from the font in the mode.
-/
set_option autoImplicit false
namespace Handheld

structure Lcd where
  name : String
  size : PixelSize
  mode : DrawMode
  lines : Array (List UInt8)
  locked : Bool
  changed : Bool
  posted : Nat

namespace Lcd

def blankLines (size : PixelSize) : Array (List UInt8) :=
  Array.replicate (Font.small.rows size) []

def ofSize (name : String) (size : PixelSize) : Lcd :=
  ⟨name, size, .none, blankLines size, false, false, 0⟩

def font (lcd : Lcd) : Font := if lcd.mode.contains .bigText then .big else .small

/-- The line at a height. Division goes toward zero, so the pixels just above the first line count
as part of it. -/
def lineAt? (lcd : Lcd) (y : Int) : Option Nat :=
  let line := (coordinate (y - lcd.font.margin)).tdiv lcd.font.cellHeight
  if 0 ≤ line then some line.toNat else none

/-- A rectangle clears the lines if it covers the display and the mode clears and fills. -/
def clears (lcd : Lcd) (x y : Int) (size : PixelSize) : Bool :=
  decide (x ≤ 0 ∧ y ≤ 0 ∧ lcd.size.width ≤ size.width ∧ lcd.size.height ≤ size.height) &&
    lcd.mode.contains (.union .clear .fill)

def setLine (lcd : Lcd) (y : Int) (text : List UInt8) : Lcd :=
  match lcd.lineAt? y with
  | none => lcd
  | some line => { lcd with lines := lcd.lines.setIfInBounds line text }

def draw (call : DrawCall) (lcd : Lcd) : Lcd :=
  match call with
  | .mode mode => { lcd with mode }
  | .rect x y size =>
    if lcd.clears x y size then { lcd with lines := lcd.lines.map fun _ => [] } else lcd
  | .line _ y text => lcd.setLine y text
  | .changed => { lcd with changed := true }

def beginDraw (lcd : Lcd) : Attempt ScreenError Lcd :=
  if lcd.locked then .stopped (.locked lcd.name) lcd else .done { lcd with locked := true }

def endDraw (lcd : Lcd) : Lcd :=
  { lcd with
    locked := false
    changed := false
    posted := if lcd.changed then lcd.posted + 1 else lcd.posted }

def resize (size : PixelSize) (lcd : Lcd) : Lcd :=
  { lcd with size := size, lines := blankLines size }

def surface : Surface Lcd := ⟨resize, beginDraw, draw, endDraw⟩

/-- How a byte is shown: zero as a blank, and what ASCII cannot print as a question mark. -/
def shownChar (value : UInt8) : Char :=
  if value = 0 then ' '
  else if 0x20 ≤ value ∧ value ≤ 0x7e then Char.ofNat value.toNat
  else '?'

def trimEnd (text : List Char) : List Char := (text.reverse.dropWhile (· == ' ')).reverse

def snapshot (lcd : Lcd) : String :=
  String.join (lcd.lines.toList.map fun line =>
    String.ofList (trimEnd (line.map shownChar)) ++ "\n")

end Lcd
end Handheld
