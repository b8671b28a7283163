/-! # Address ranges

Addresses have 32 bits, sizes and ends of ranges 64. A frame window is the part of the runtime
region that the running function uses; nothing keeps a window inside its region but the program
that moves it.
-/
set_option autoImplicit false
namespace Handheld

def wordLimit : Nat := 0x10000000000000000

/-- The end of a range, a plain sum of 64 bits. Where it does not fit there is none, and a program
built with overflow checks stops. -/
def rangeEnd? (base size : Nat) : Option Nat :=
  if base + size < wordLimit then some (base + size) else none

structure OutsideRegion where
  addr : UInt32
  base : UInt32
  size : Nat
  deriving DecidableEq

def localOffset (addr base : UInt32) (size : Nat) : Except OutsideRegion Nat :=
  if base.toNat ≤ addr.toNat ∧ addr.toNat - base.toNat < size then .ok (addr.toNat - base.toNat)
  else .error ⟨addr, base, size⟩

theorem localOffset_eq_ok_iff {addr base : UInt32} {size offset : Nat} :
    localOffset addr base size = .ok offset ↔ addr.toNat = base.toNat + offset ∧ offset < size := by
  unfold localOffset
  split <;> simp <;> omega

/-- The addresses from the start of a window up to its stop, which is not part of it. -/
structure Window where
  start : UInt32
  stop : UInt32
  deriving DecidableEq

namespace Window

def closed : Window := ⟨0, 0⟩

/-- A window that stops before it starts has no bytes. -/
def length (window : Window) : Nat := window.stop.toNat - window.start.toNat

def Consistent (window : Window) (base : UInt32) (size : Nat) : Prop :=
  base.toNat ≤ window.start.toNat ∧ window.start.toNat ≤ window.stop.toNat ∧
    window.stop.toNat ≤ base.toNat + size

instance (window : Window) (base : UInt32) (size : Nat) :
    Decidable (window.Consistent base size) := by
  unfold Consistent
  infer_instance

end Window
end Handheld
