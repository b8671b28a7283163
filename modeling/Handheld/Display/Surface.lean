import Handheld.Attempt
import Handheld.Display.Drawing

/-! # Surfaces

A surface is anything that can be drawn on. It is locked for the time of a drawing session, and
a session that could begin always ends.
-/
set_option autoImplicit false
namespace Handheld

inductive ScreenError
  | locked (name : String)
  deriving DecidableEq

def ScreenError.message : ScreenError → String
  | locked name => s!"无法锁定画布: {name} 的画布未释放"

structure Surface (σ : Type) where
  resize : PixelSize → σ → σ
  beginDraw : σ → Attempt ScreenError σ
  draw : DrawCall → σ → σ
  endDraw : σ → σ

namespace Surface
variable {σ : Type}

def drawAll (surface : Surface σ) (calls : List DrawCall) (screen : σ) : σ :=
  calls.foldl (fun screen call => surface.draw call screen) screen

def present (surface : Surface σ) (calls : List DrawCall) (screen : σ) : Attempt ScreenError σ :=
  (surface.beginDraw screen).andThen fun screen =>
    .done (surface.endDraw (surface.drawAll calls screen))

end Surface
end Handheld
