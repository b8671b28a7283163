import Handheld.Memory.Kind
import Handheld.Memory.Window
import Handheld.Memory.Pages

/-! # Memory regions

A region is a run of addresses of one kind. What stands behind its addresses is either bytes of
its own, a text page shared with the console, or address room that keeps nothing.
-/
set_option autoImplicit false
namespace Handheld

/-- The storage of a region. Reserved room answers only in its backed part, with the low byte of
the offset, and forgets what is written. -/
inductive Backing
  | bytes (data : Array UInt8)
  | page (view : PageView)
  | reserved (extent backed : Nat)

namespace Backing

def size : Backing → Nat
  | bytes data => data.size
  | page view => view.size
  | reserved extent _ => extent

def reach : Backing → Nat
  | bytes data => data.size
  | page view => view.size
  | reserved _ backed => backed

def read? (pages : TextPages) (offset : Nat) : Backing → Option UInt8
  | bytes data => data[offset]?
  | page view => (pages.page view.serial)[offset]?
  | reserved _ _ => some (UInt8.ofNat offset)

def set (offset : Nat) (value : UInt8) : Backing → Backing
  | bytes data => bytes (data.setIfInBounds offset value)
  | other => other

def zeroed : Backing → Backing
  | bytes data => bytes (data.map fun _ => 0)
  | other => other

def onPages (change : Array UInt8 → Array UInt8) (pages : TextPages) : Backing → TextPages
  | page view => pages.modify view.serial change
  | _ => pages

end Backing

structure Region where
  kind : RegionKind
  base : UInt32
  backing : Backing
  window : Option Window

namespace Region

/-- A region of its own bytes, all zero; only the runtime region has a frame window. -/
def ofSize (kind : RegionKind) (size : Nat) : Region where
  kind := kind
  base := 0
  backing := .bytes (Array.replicate size 0)
  window := if kind = .runtime then some .closed else none

def ofPage (view : PageView) : Region := ⟨.text, 0, .page view, none⟩

def reserve (kind : RegionKind) (extent backed : Nat) : Region :=
  ⟨kind, 0, .reserved extent backed, none⟩

def size (region : Region) : Nat := region.backing.size

/-- The first address after the region, which may be the end of the address space. Regions of a
space end far below 64 bits, so that this sum never overflows there. -/
def limit (region : Region) : Nat := region.base.toNat + region.size

def moveTo (region : Region) (base : UInt32) : Region := { region with base }

def Contains (region : Region) (addr : UInt32) : Prop :=
  region.base.toNat ≤ addr.toNat ∧ addr.toNat < region.limit

instance (region : Region) (addr : UInt32) : Decidable (region.Contains addr) := by
  unfold Contains
  infer_instance

def offset (region : Region) (addr : UInt32) : Except OutsideRegion Nat :=
  localOffset addr region.base region.backing.reach

def read (pages : TextPages) (region : Region) (addr : UInt32) : Except OutsideRegion UInt8 :=
  match region.offset addr with
  | .error e => .error e
  | .ok offset =>
    match region.backing.read? pages offset with
    | some value => .ok value
    | none => .error ⟨addr, region.base, region.size⟩

def set (region : Region) (offset : Nat) (value : UInt8) : Region :=
  { region with backing := region.backing.set offset value }

/-- The region and the shared pages after a byte was written. Like a read it is refused once more
where there is no byte behind the address. -/
def write (pages : TextPages) (region : Region) (addr : UInt32) (value : UInt8) :
    Except OutsideRegion (Region × TextPages) :=
  match region.offset addr with
  | .error e => .error e
  | .ok offset =>
    match region.backing.read? pages offset with
    | some _ =>
      .ok (region.set offset value, region.backing.onPages (·.setIfInBounds offset value) pages)
    | none => .error ⟨addr, region.base, region.size⟩

def zeroed (region : Region) : Region := { region with backing := region.backing.zeroed }

@[simp] theorem size_moveTo (region : Region) (base : UInt32) :
    (region.moveTo base).size = region.size := rfl

@[simp] theorem kind_moveTo (region : Region) (base : UInt32) :
    (region.moveTo base).kind = region.kind := rfl

end Region
end Handheld
