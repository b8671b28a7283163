/-! # Drawing calls

What a console asks of a display, as data: sizes in pixels, modes as sets of flags, and the calls
in the order in which a display receives them.
-/
set_option autoImplicit false
namespace Handheld

structure PixelSize where
  width : Nat
  height : Nat
  deriving DecidableEq

def PixelSize.bitmapBytes (size : PixelSize) : Nat := (size.width * size.height + 7) / 8

structure DrawMode where
  bits : UInt8
  deriving DecidableEq

namespace DrawMode

def none : DrawMode := ⟨0x00⟩
def copy : DrawMode := ⟨0x01⟩
def clear : DrawMode := ⟨0x02⟩
def graph : DrawMode := ⟨0x04⟩
def fill : DrawMode := ⟨0x10⟩
def bigText : DrawMode := ⟨0x20⟩

def union (a b : DrawMode) : DrawMode := ⟨a.bits ||| b.bits⟩

def contains (mode flags : DrawMode) : Bool := mode.bits &&& flags.bits == flags.bits

def all : DrawMode := copy.union (clear.union (graph.union (fill.union bigText)))

/-- The flags among some bits; other bits mean nothing. -/
def ofBits (bits : UInt8) : DrawMode := ⟨bits &&& all.bits⟩

end DrawMode

inductive DrawCall
  | mode (mode : DrawMode)
  | rect (x y : Int) (size : PixelSize)
  | line (x y : Int) (text : List UInt8)
  | changed
  deriving DecidableEq

/-- Coordinates are 32-bit numbers with a sign. They are added plainly, and this is the reading in
which such a sum wraps; a program that is built with overflow checks stops there instead. -/
def coordinate (n : Int) : Int := n.bmod 0x100000000

end Handheld
