import Handheld.Display.Surface

/-! # Guarded surfaces

A surface that counts its drawing sessions and does not let the sessions of some numbers begin.
-/
set_option autoImplicit false
namespace Handheld

structure Guarded (σ : Type) where
  inner : σ
  begins : Nat
  ends : Nat

def Guarded.start {σ : Type} (inner : σ) : Guarded σ := ⟨inner, 0, 0⟩

/-- Sessions are numbered from zero; a refused one counts as begun but never ends. -/
def Surface.guarded {σ : Type} (surface : Surface σ) (refused : List Nat) (name : String) :
    Surface (Guarded σ) where
  resize size screen := { screen with inner := surface.resize size screen.inner }
  beginDraw screen :=
    if screen.begins ∈ refused then
      .stopped (.locked name) { screen with begins := screen.begins + 1 }
    else
      (surface.beginDraw screen.inner).map fun inner =>
        { screen with inner := inner, begins := screen.begins + 1 }
  draw call screen := { screen with inner := surface.draw call screen.inner }
  endDraw screen :=
    { screen with inner := surface.endDraw screen.inner, ends := screen.ends + 1 }

end Handheld
