import Handheld.Console.Basic
import Handheld.Display.Surface

/-! # Refreshing the screen

The drawing calls that show the rows of a mask, and the redraw of a console whose requests are
pending. A redraw that cannot lock the surface leaves the requests pending.
-/
set_option autoImplicit false
namespace Handheld

namespace Console

def clearMode : DrawMode := .union .clear (.union .graph .fill)

def textMode : Font → DrawMode
  | .big => .union .copy (.union .graph .bigText)
  | .small => .union .copy .graph

def rowTop (font : Font) (row : Nat) : Int := coordinate (font.margin + row * font.cellHeight)

def drawRow (console : Console) (row : Nat) : DrawCall :=
  .line console.font.margin (rowTop console.font row) (console.grid.rowBytes row)

def drawRows (console : Console) (mask : UInt8) : List DrawCall :=
  ((List.range console.grid.rows).filter (RefreshMask.draws mask)).map console.drawRow

def refreshCalls (console : Console) (mask : UInt8) : List DrawCall :=
  if mask = RefreshMask.nothing then []
  else
    (if mask = RefreshMask.everything then [.mode clearMode, .rect 0 0 console.size] else []) ++
      .mode (textMode console.font) :: console.drawRows mask ++ [.changed]

def redraw {σ : Type} (surface : Surface σ) (console : Console) (screen : σ) :
    Attempt ScreenError (Console × σ) :=
  if console.isDirty then
    let begun := surface.beginDraw screen
    match begun.fault with
    | some e => .stopped e (console, begun.state)
    | none =>
      let drawn := surface.drawAll (console.refreshCalls console.pending) begun.state
      .done (console.settlePending, surface.endDraw drawn)
  else .done (console, screen)

end Console
end Handheld
