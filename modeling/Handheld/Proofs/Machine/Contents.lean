import Handheld.Machine.Basic
import Handheld.Proofs.Memory.Access

/-! # The contents of a machine's memory

The memory of a machine always has one region of each kind, in the order of the kinds. What such a
memory holds fixes the whole address space, so that every change to the space is a change of its
contents: a relayout, a byte written or a region exchanged.
-/
set_option autoImplicit false
namespace Handheld

def RegionKind.place : RegionKind → Nat
  | runtime => 0
  | graph => 1
  | buffer => 2
  | text => 3
  | string => 4

theorem RegionKind.getElem?_place (kind : RegionKind) : all[kind.place]? = some kind := by
  cases kind <;> rfl

theorem RegionKind.place_inj {kind other : RegionKind} (h : kind.place = other.place) :
    kind = other := by
  have hSame := kind.getElem?_place
  rw [h, other.getElem?_place] at hSame
  exact (Option.some_inj.mp hSame).symm

theorem RegionKind.exists_place {i : Nat} (h : i < 5) : ∃ kind : RegionKind, kind.place = i := by
  match i, h with
  | 0, _ => exact ⟨runtime, rfl⟩
  | 1, _ => exact ⟨graph, rfl⟩
  | 2, _ => exact ⟨buffer, rfl⟩
  | 3, _ => exact ⟨text, rfl⟩
  | 4, _ => exact ⟨string, rfl⟩

namespace Geometry

def sizeOf (geometry : Geometry) : RegionKind → Nat
  | .runtime => geometry.runtimeSize
  | .graph | .buffer => geometry.screen.bitmapBytes
  | .text => geometry.screen.textCells
  | .string => geometry.stringSize

def baseOf (geometry : Geometry) : RegionKind → Nat
  | .runtime => 0
  | .graph => geometry.runtimeSize
  | .buffer => geometry.runtimeSize + geometry.screen.bitmapBytes
  | .text => geometry.runtimeSize + 2 * geometry.screen.bitmapBytes
  | .string => geometry.runtimeSize + 2 * geometry.screen.bitmapBytes + geometry.screen.textCells

def total (geometry : Geometry) : Nat := geometry.baseOf .string + geometry.stringSize

/-- No region is empty and all of them fit into the addresses. -/
structure Fits (geometry : Geometry) : Prop where
  occupied : ∀ kind, 0 < geometry.sizeOf kind
  total_le : geometry.total ≤ addressLimit

end Geometry

/-- What the regions of a machine hold: their own bytes, the page behind the text region and the
frame window of the runtime region. -/
structure Contents where
  bytes : RegionKind → Array UInt8
  text : PageView
  window : Window

namespace Contents

def region (contents : Contents) (kind : RegionKind) : Region where
  kind := kind
  base := 0
  backing := if kind = .text then .page contents.text else .bytes (contents.bytes kind)
  window := if kind = .runtime then some contents.window else none

def regions (contents : Contents) : List Region := RegionKind.all.map contents.region

def space (contents : Contents) : AddressSpace where
  regions := AddressSpace.layFrom 0 contents.regions
  firsts kind := some kind.place

def Measures (contents : Contents) (geometry : Geometry) : Prop :=
  ∀ kind, (contents.region kind).size = geometry.sizeOf kind

structure SameShape (contents other : Contents) : Prop where
  size_eq : ∀ kind, (other.bytes kind).size = (contents.bytes kind).size
  text_eq : other.text = contents.text
  window_eq : other.window = contents.window

variable {contents other : Contents} {geometry : Geometry}

theorem getElem?_regions (kind : RegionKind) :
    contents.regions[kind.place]? = some (contents.region kind) := by
  rw [regions, List.getElem?_map, kind.getElem?_place, Option.map_some]

theorem map_unplaced_regions : contents.regions.map Region.unplaced = contents.regions := by
  rw [regions, List.map_map]
  rfl

theorem findIdx?_regions (kind : RegionKind) :
    (contents.regions.findIdx? fun region => region.kind == kind) = some kind.place := by
  cases kind <;> rfl

theorem extent_take_regions (h : contents.Measures geometry) (kind : RegionKind) :
    AddressSpace.extent (contents.regions.take kind.place) = geometry.baseOf kind := by
  have hRuntime := h .runtime
  have hGraph := h .graph
  have hBuffer := h .buffer
  have hText := h .text
  simp only [Geometry.sizeOf] at hRuntime hGraph hBuffer hText
  cases kind <;>
    simp only [regions, RegionKind.all, RegionKind.place, List.map_cons, List.take_succ_cons,
      List.take_zero, AddressSpace.extent_cons, AddressSpace.extent_nil, Geometry.baseOf] <;>
    omega

theorem extent_regions (h : contents.Measures geometry) :
    AddressSpace.extent contents.regions = geometry.total := by
  have hString := h .string
  rw [Geometry.sizeOf] at hString
  have hLast := AddressSpace.extent_take_succ (@getElem?_regions contents .string)
  rw [extent_take_regions h, hString] at hLast
  exact hLast

theorem laidOut_space (h : contents.Measures geometry) (hFits : geometry.Fits) :
    contents.space.LaidOut := by
  apply AddressSpace.laidOut_layFrom
  · intro region hRegion
    obtain ⟨kind, _, rfl⟩ := List.mem_map.mp hRegion
    rw [h kind]
    exact hFits.occupied kind
  · rw [extent_regions h]
    exact hFits.total_le
  · exact fun kind => (findIdx?_regions kind).symm

theorem eq_space {space : AddressSpace} (h : space.LaidOut)
    (hRegions : space.regions.map Region.unplaced = contents.regions) :
    space = contents.space := by
  have hLaid : space.regions = AddressSpace.layFrom 0 contents.regions := by
    rw [← hRegions, AddressSpace.layFrom_map_unplaced, AddressSpace.layFrom_eq_self h.starts]
  have hFirsts : space.firsts = fun kind => some kind.place := by
    funext kind
    rw [h.indexed kind, hLaid, ← findIdx?_regions kind]
    exact AddressSpace.findIdx?_kind_congr (AddressSpace.map_kind_layFrom 0 _) kind
  rw [Contents.space, ← hLaid, ← hFirsts]

theorem map_unplaced_space : contents.space.regions.map Region.unplaced = contents.regions := by
  rw [space, AddressSpace.map_unplaced_layFrom, map_unplaced_regions]

theorem getElem?_space (h : contents.Measures geometry) (kind : RegionKind) :
    contents.space.regions[kind.place]? =
      some ((contents.region kind).moveTo (UInt32.ofNat (geometry.baseOf kind))) := by
  rw [space, AddressSpace.getElem?_layFrom, getElem?_regions, Option.map_some,
    extent_take_regions h, Nat.zero_add]

theorem region?_space (h : contents.Measures geometry) (kind : RegionKind) :
    contents.space.region? kind =
      some ((contents.region kind).moveTo (UInt32.ofNat (geometry.baseOf kind))) := by
  rw [AddressSpace.region?, show contents.space.firsts kind = some kind.place from rfl,
    Option.bind_some, getElem?_space h]

theorem baseOf_add_sizeOf_le (hFits : geometry.Fits) (kind : RegionKind) :
    geometry.baseOf kind + geometry.sizeOf kind ≤ addressLimit := by
  have hLe := hFits.total_le
  simp only [Geometry.total] at hLe
  cases kind <;> simp only [Geometry.baseOf, Geometry.sizeOf] at hLe ⊢ <;> omega

theorem space_modify (h : contents.space.LaidOut) {change : Region → Region}
    (hOutline : ∀ region : Region, (change region).outline = region.outline)
    (hUnplaced : ∀ region : Region, (change region).unplaced = change region.unplaced)
    {kind : RegionKind} (hChange : other.regions = contents.regions.modify kind.place change) :
    (⟨contents.space.regions.modify kind.place change, contents.space.firsts⟩ : AddressSpace) =
      other.space := by
  apply eq_space (h.modify hOutline kind.place)
  dsimp only
  rw [hChange, ← map_unplaced_space]
  apply List.ext_getElem?
  intro j
  rw [List.getElem?_map, List.getElem?_modify, List.getElem?_modify, List.getElem?_map,
    Option.map_eq_map, Option.map_map, Option.map_map]
  congr 1
  funext region
  rw [Function.comp_apply, Function.comp_apply]
  split
  · exact hUnplaced region
  · rfl

theorem modifyWindow_space (h : contents.space.LaidOut) (change : Window → Window) :
    contents.space.modifyWindow change =
      { contents with window := change contents.window }.space := by
  have hModify := @space_modify contents { contents with window := change contents.window } h
    (fun region => { region with window := region.window.map change }) (fun _ => rfl)
    (fun _ => rfl) .runtime rfl
  exact hModify

def write (contents : Contents) (kind : RegionKind) (offset : Nat) (value : UInt8) : Contents :=
  { contents with
    bytes := fun other =>
      if other = kind then (contents.bytes kind).setIfInBounds offset value
      else contents.bytes other }

theorem sameShape_write (contents : Contents) (kind : RegionKind) (offset : Nat) (value : UInt8) :
    contents.SameShape (contents.write kind offset value) where
  size_eq other := by
    rw [write]
    dsimp only
    split
    · rename_i hKind
      rw [hKind, Array.size_setIfInBounds]
    · rfl
  text_eq := rfl
  window_eq := rfl

theorem space_setAt (h : contents.space.LaidOut) (pages : TextPages) (kind : RegionKind)
    (offset : Nat) (value : UInt8) :
    (Store.setAt ⟨contents.space, pages⟩ kind.place offset value).space =
      (contents.write kind offset value).space := by
  apply space_modify h
  · exact fun region => region.outline_set offset value
  · exact fun _ => rfl
  · cases kind <;> rfl

def zeroed (contents : Contents) : Contents :=
  { contents with bytes := fun kind => (contents.bytes kind).map fun _ => 0 }

theorem sameShape_zeroed (contents : Contents) : contents.SameShape contents.zeroed where
  size_eq _ := Array.size_map
  text_eq := rfl
  window_eq := rfl

theorem space_clearAll (h : contents.space.LaidOut) (pages : TextPages) :
    (Store.clearAll ⟨contents.space, pages⟩).space = contents.zeroed.space := by
  apply eq_space
  · exact h.map Region.outline_zeroed
  · change (contents.space.regions.map Region.zeroed).map Region.unplaced = _
    have hComm : Region.unplaced ∘ Region.zeroed = Region.zeroed ∘ Region.unplaced := rfl
    rw [List.map_map, hComm, ← List.map_map, map_unplaced_space]
    rfl

end Contents
end Handheld
