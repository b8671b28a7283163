import Handheld.Proofs.Machine.Assembly

/-! # Reading an assembled workspace

Where the regions of an assembled workspace lie and what is read from them. The regions give back
the bytes of the contents, the text region the cells of the console.
-/
set_option autoImplicit false
namespace Handheld
namespace Workspace

def readIn (work : Workspace) (kind : RegionKind) (offset : Nat) : Except MemoryError UInt8 :=
  match work.space.region? kind with
  | none => .error (.missing kind)
  | some region => work.store.readByte (region.base + UInt32.ofNat offset)

namespace Assembled

variable {geometry : Geometry} {contents : Contents} {work : Workspace}

theorem region?_eq (h : Assembled geometry contents work) (kind : RegionKind) :
    work.space.region? kind =
      some ((contents.region kind).moveTo (UInt32.ofNat (geometry.baseOf kind))) := by
  rw [h.space_eq]
  exact Contents.region?_space h.measures kind

theorem laidOut_store (h : Assembled geometry contents work) : work.store.space.LaidOut := by
  rw [store, h.space_eq]
  exact h.laidOut

theorem getElem?_regions (h : Assembled geometry contents work) (kind : RegionKind) :
    work.space.regions[kind.place]? =
      some ((contents.region kind).moveTo (UInt32.ofNat (geometry.baseOf kind))) := by
  rw [h.space_eq]
  exact Contents.getElem?_space h.measures kind

theorem window?_eq (h : Assembled geometry contents work) :
    work.space.window? = some contents.window := by
  rw [AddressSpace.window?, h.region?_eq]
  rfl

theorem toNat_base (h : Assembled geometry contents work) (kind : RegionKind) :
    (UInt32.ofNat (geometry.baseOf kind)).toNat = geometry.baseOf kind :=
  Contents.toNat_baseOf h.fits kind

theorem outlines_eq (h : Assembled geometry contents work) :
    work.space.regions.map (fun region => (region.kind, region.base.toNat, region.size)) =
      RegionKind.all.map fun kind => (kind, geometry.baseOf kind, geometry.sizeOf kind) := by
  apply List.ext_getElem?
  intro i
  rw [List.getElem?_map, List.getElem?_map]
  by_cases hPlace : i < 5
  · obtain ⟨kind, rfl⟩ := RegionKind.exists_place hPlace
    rw [h.getElem?_regions kind, kind.getElem?_place, Option.map_some, Option.map_some,
      Region.size_moveTo, h.measures kind]
    congr 2
    exact congrArg (·, geometry.sizeOf kind) (h.toNat_base kind)
  · have hLength : work.space.regions.length = 5 := by
      have hUnplaced := congrArg List.length (@Contents.map_unplaced_space contents)
      rw [List.length_map] at hUnplaced
      rw [h.space_eq, hUnplaced]
      rfl
    rw [List.getElem?_eq_none (by omega),
      List.getElem?_eq_none (by simpa [RegionKind.all] using hPlace)]
    rfl

theorem toNat_base_add (h : Assembled geometry contents work) {kind : RegionKind} {offset : Nat}
    (hOffset : offset < geometry.sizeOf kind) :
    (UInt32.ofNat (geometry.baseOf kind) + UInt32.ofNat offset).toNat =
      (UInt32.ofNat (geometry.baseOf kind)).toNat + offset := by
  have hEnd := Contents.baseOf_add_sizeOf_le h.fits kind
  have hLimit : addressLimit = 0x100000000 := rfl
  rw [UInt32.toNat_add, h.toNat_base, UInt32.toNat_ofNat_of_lt' (by change _ < 0x100000000; omega)]
  exact Nat.mod_eq_of_lt (by change _ < 0x100000000; omega)

theorem readIn_bytes (h : Assembled geometry contents work) {kind : RegionKind}
    (hKind : kind ≠ .text) {offset : Nat} (hOffset : offset < geometry.sizeOf kind) :
    work.readIn kind offset = .ok ((contents.bytes kind).getD offset 0) := by
  have hBacking : (contents.region kind).backing = .bytes (contents.bytes kind) := by
    rw [Contents.region, if_neg hKind]
  have hSize : offset < (contents.bytes kind).size := by
    rwa [← h.measures kind, Region.size, hBacking] at hOffset
  rw [readIn, h.region?_eq, Array.getD_eq_getD_getElem?, Array.getElem?_eq_getElem hSize,
    Option.getD_some]
  exact Store.readByte_bytes h.laidOut_store (h.getElem?_regions kind) hBacking hSize
    (h.toNat_base_add hOffset)

theorem readIn_text (h : Assembled geometry contents work) {offset : Nat}
    (hOffset : offset < work.console.grid.cells.size) :
    work.readIn .text offset = .ok work.console.grid.cells[offset] := by
  have hBacking : (contents.region .text).backing = .page work.console.pages.view := by
    rw [← h.text_eq]
    rfl
  have hSize : offset < geometry.sizeOf .text := by
    rw [← h.measures .text, Region.size, hBacking]
    exact hOffset
  rw [readIn, h.region?_eq]
  apply Store.readByte_page h.laidOut_store (h.getElem?_regions .text) hBacking hOffset
  · exact h.toNat_base_add hSize
  · rw [show work.store.pages = work.console.pages from rfl, TextPages.page_view]
    exact Array.getElem?_eq_getElem hOffset

end Assembled
end Workspace
end Handheld
