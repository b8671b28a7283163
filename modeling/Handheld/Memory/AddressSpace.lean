import Handheld.Memory.Error
import Handheld.Memory.Region

/-! # The address space

Regions follow one another in the order of their installation, each from the end of the one
before it. Replacing a region moves all regions to their new places or, if the new layout does
not fit into 32-bit addresses, none.
-/
set_option autoImplicit false
namespace Handheld

def addressLimit : Nat := 0x100000000

structure AddressSpace where
  regions : List Region
  firsts : RegionKind → Option Nat

namespace AddressSpace

def empty : AddressSpace := ⟨[], fun _ => none⟩

def checkFit (region : Region) (base : Nat) : Except MemoryError Unit :=
  if region.size = 0 then .error (.zeroSize region.kind)
  else
    match rangeEnd? base region.size with
    | none => .error (.sumOverflow base region.size)
    | some stop =>
      if addressLimit < stop then .error (.addressOverflow region.kind base region.size)
      else .ok ()

def nextBase (space : AddressSpace) : Nat :=
  match space.regions.getLast? with
  | none => 0
  | some region => region.limit

/-- Notes the place of a region; a kind keeps the place that was noted first. -/
def noteFirst (firsts : RegionKind → Option Nat) (kind : RegionKind) (i : Nat) :
    RegionKind → Option Nat := fun other =>
  if other = kind then some ((firsts kind).getD i) else firsts other

def install (space : AddressSpace) (region : Region) : Except MemoryError AddressSpace :=
  match checkFit region space.nextBase with
  | .error e => .error e
  | .ok () =>
    .ok
      { regions := space.regions ++ [region.moveTo (UInt32.ofNat space.nextBase)]
        firsts := noteFirst space.firsts region.kind space.regions.length }

def checkFrom (base : Nat) : List Region → Except MemoryError Unit
  | [] => .ok ()
  | region :: rest =>
    match checkFit region base with
    | .error e => .error e
    | .ok () => checkFrom (base + region.size) rest

def layFrom (base : Nat) : List Region → List Region
  | [] => []
  | region :: rest =>
    region.moveTo (UInt32.ofNat base) :: layFrom (base + region.size) rest

/-- Lays all regions out again. Nothing moves before all of them are known to fit. -/
def relayout (space : AddressSpace) : Except MemoryError AddressSpace :=
  match checkFrom 0 space.regions with
  | .error e => .error e
  | .ok () => .ok { space with regions := layFrom 0 space.regions }

def region? (space : AddressSpace) (kind : RegionKind) : Option Region :=
  (space.firsts kind).bind fun i => space.regions[i]?

def modifyRegion (space : AddressSpace) (kind : RegionKind) (change : Region → Region) :
    AddressSpace :=
  match space.firsts kind with
  | none => space
  | some i => { space with regions := space.regions.modify i change }

def setRegion (space : AddressSpace) (i : Nat) (region : Region) : AddressSpace :=
  { space with regions := space.regions.set i region }

/-- Puts a region in the place of the first one of its kind and lays all regions out again. If
they do not fit, the region taken out goes back to its place and the layout is repeated; else it
is the answer. A sum that stops the program leaves the new region where it was put. -/
def replace (space : AddressSpace) (region : Region) : AddressSpace × Except MemoryError Region :=
  match space.firsts region.kind, space.region? region.kind with
  | some i, some old =>
    let changed := space.setRegion i region
    match changed.relayout with
    | .ok laid => (laid, .ok old)
    | .error e =>
      if e.stopsProgram then (changed, .error e)
      else
        let restored := changed.setRegion i old
        match restored.relayout with
        | .ok laid => (laid, .error e)
        | .error e' => (restored, .error e')
  | _, _ => (space, .error (.missing region.kind))

def window? (space : AddressSpace) : Option Window :=
  (space.region? .runtime).bind fun region => region.window

def modifyWindow (space : AddressSpace) (change : Window → Window) : AddressSpace :=
  space.modifyRegion .runtime fun region => { region with window := region.window.map change }

/-- Where a region lies as seen from an address: behind it, around it or ahead of it. -/
def side (addr : UInt32) (region : Region) : Ordering :=
  if addr.toNat < region.base.toNat then .gt
  else if region.limit ≤ addr.toNat then .lt
  else .eq

def startsAbove (addr : UInt32) (region? : Option Region) : Bool :=
  match region? with
  | some region => side addr region == .gt
  | none => true

/-- Halves a run of regions until one is left: the last that does not start above the address. -/
def narrow (addr : UInt32) (regions : List Region) (start size : Nat) : Nat :=
  if size ≤ 1 then start
  else
    let middle := start + size / 2
    narrow addr regions (if startsAbove addr regions[middle]? then start else middle)
      (size - size / 2)
termination_by size
decreasing_by omega

def find? (space : AddressSpace) (addr : UInt32) : Option Nat :=
  let i := narrow addr space.regions 0 space.regions.length
  match space.regions[i]? with
  | some region => if side addr region = .eq then some i else none
  | none => none

def describe (space : AddressSpace) : String :=
  let entries := space.regions.map fun region =>
    s!"{region.kind.name}@{Hexadecimal.number region.base.toNat}+{Hexadecimal.number region.size}"
  "[" ++ ", ".intercalate entries ++ "]"

end AddressSpace
end Handheld
