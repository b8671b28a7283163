import Handheld.Proofs.Machine.Contents

/-! # Memory for a screen

The layout of a new machine and the exchange of the regions that depend on the screen, as contents.
Where an exchange succeeds, the bytes of the other regions and the frame window are untouched.
-/
set_option autoImplicit false
namespace Handheld

structure PixelSize.InRange (size : PixelSize) : Prop where
  width_lt : size.width < 0x100000000
  height_lt : size.height < 0x100000000

/-- A geometry whose numbers a configuration can hold and whose regions can be allocated. -/
structure Geometry.InRange (geometry : Geometry) : Prop where
  screen : geometry.screen.InRange
  runtime_lt : geometry.runtimeSize < AddressSpace.sizeLimit
  string_lt : geometry.stringSize < AddressSpace.sizeLimit

instance (size : PixelSize) : Decidable size.InRange :=
  decidable_of_iff (size.width < 0x100000000 ∧ size.height < 0x100000000)
    ⟨fun h => ⟨h.1, h.2⟩, fun h => ⟨h.1, h.2⟩⟩

instance (geometry : Geometry) : Decidable geometry.InRange :=
  decidable_of_iff (geometry.screen.InRange ∧ geometry.runtimeSize < AddressSpace.sizeLimit ∧
      geometry.stringSize < AddressSpace.sizeLimit)
    ⟨fun h => ⟨h.1, h.2.1, h.2.2⟩, fun h => ⟨h.1, h.2, h.3⟩⟩

namespace PixelSize.InRange
variable {size : PixelSize}

theorem area_lt (h : size.InRange) : size.width * size.height < 0x10000000000000000 :=
  Nat.mul_lt_mul'' h.width_lt h.height_lt

theorem bitmapBytes_lt (h : size.InRange) : size.bitmapBytes < AddressSpace.sizeLimit := by
  have hArea := h.area_lt
  rw [PixelSize.bitmapBytes, AddressSpace.sizeLimit]
  omega

theorem textCells_lt (h : size.InRange) : size.textCells < AddressSpace.sizeLimit := by
  have hWidth := h.width_lt
  have hHeight := h.height_lt
  have hCols : Font.small.columns size < 0x80000000 := by
    simp only [Font.columns, Font.cellWidth]
    omega
  have hRows : Font.small.rows size < 0x100000000 := by
    simp only [Font.rows, Font.cellHeight]
    omega
  exact Nat.mul_lt_mul'' hCols hRows

end PixelSize.InRange

namespace Contents
variable {contents other : Contents} {geometry : Geometry}

theorem size_region_pos (h : contents.space.LaidOut) (kind : RegionKind) :
    0 < (contents.region kind).size := by
  have hMember : contents.region kind ∈ contents.regions :=
    List.mem_of_getElem? (getElem?_regions kind)
  rw [← map_unplaced_space] at hMember
  obtain ⟨region, hRegion, hEq⟩ := List.mem_map.mp hMember
  rw [← hEq, Region.size_unplaced]
  exact h.occupied region hRegion

theorem fits_of_laidOut (h : contents.space.LaidOut) (hMeasures : contents.Measures geometry) :
    geometry.Fits where
  occupied kind := by
    rw [← hMeasures kind]
    exact size_region_pos h kind
  total_le := by
    rw [← extent_regions hMeasures, ← AddressSpace.extent_layFrom 0]
    exact h.fits

theorem exchange_space (h : contents.space.LaidOut) {region : Region}
    (hSize : region.size < AddressSpace.sizeLimit)
    (hRegions : other.regions = contents.regions.set region.kind.place region.unplaced)
    (hOk : (contents.space.exchange region).fault = none) :
    (contents.space.exchange region).state = other.space ∧ other.space.LaidOut := by
  have hLaid := h.of_replace fun _ => h.goesOn_replace hSize
  rw [AddressSpace.exchange] at hOk ⊢
  cases hReplace : contents.space.replace region with
  | mk after result =>
    rw [hReplace] at hOk hLaid
    cases result with
    | error e => cases hOk
    | ok old =>
      have hAfter : after.regions.map Region.unplaced = other.regions := by
        have hSet := @AddressSpace.LaidOut.map_unplaced_replace contents.space region h
          region.kind.place old rfl (by rw [hReplace])
        rw [hReplace, map_unplaced_space] at hSet
        exact hSet.trans hRegions.symm
      have hSpace : after = other.space := eq_space hLaid hAfter
      exact ⟨hSpace, hSpace ▸ hLaid⟩

/-- The contents after the machine was fitted to a screen: a page of its size and two empty
pictures. -/
def fitted (contents : Contents) (size : PixelSize) (text : PageView) : Contents :=
  { contents with
    bytes := fun kind =>
      if kind = .graph ∨ kind = .buffer then Array.replicate size.bitmapBytes 0
      else contents.bytes kind
    text := text }

theorem fitScreen_space (h : contents.space.LaidOut) {size : PixelSize} (hSize : size.InRange)
    {text : PageView} (hText : text.size = size.textCells)
    (hOk : (contents.space.fitScreen size text).fault = none) :
    (contents.space.fitScreen size text).state = (contents.fitted size text).space ∧
      (contents.fitted size text).space.LaidOut := by
  have hBitmap (kind : RegionKind) :
      (Region.ofSize kind size.bitmapBytes).size < AddressSpace.sizeLimit := by
    rw [Region.ofSize, Region.size, Backing.size, Array.size_replicate]
    exact hSize.bitmapBytes_lt
  have hPage : (Region.ofPage text).size < AddressSpace.sizeLimit :=
    Nat.lt_of_le_of_lt (Nat.le_of_eq hText) hSize.textCells_lt
  let withText : Contents := { contents with text := text }
  let withGraph : Contents :=
    { withText with
      bytes := fun kind =>
        if kind = .graph then Array.replicate size.bitmapBytes 0 else contents.bytes kind }
  rw [AddressSpace.fitScreen] at hOk ⊢
  obtain ⟨hOk₁, hRest⟩ := (Attempt.andThen_fault_eq_none_iff _ _).mp hOk
  obtain ⟨hSpace₁, hLaid₁⟩ := @exchange_space contents withText h _ hPage rfl hOk₁
  rw [Attempt.andThen_of_fault_eq_none hOk₁, hSpace₁]
  rw [hSpace₁] at hRest
  obtain ⟨hOk₂, hLast⟩ := (Attempt.andThen_fault_eq_none_iff _ _).mp hRest
  obtain ⟨hSpace₂, hLaid₂⟩ :=
    @exchange_space withText withGraph hLaid₁ _ (hBitmap .graph) rfl hOk₂
  rw [Attempt.andThen_of_fault_eq_none hOk₂, hSpace₂]
  rw [hSpace₂] at hLast
  exact @exchange_space withGraph (contents.fitted size text) hLaid₂ _ (hBitmap .buffer) rfl hLast

theorem measures_fitted {text : PageView} {size : PixelSize} (h : contents.Measures geometry)
    (hText : text.size = size.textCells) :
    (contents.fitted size text).Measures { geometry with screen := size } := by
  intro kind
  cases kind with
  | runtime => exact h .runtime
  | graph => exact Array.size_replicate
  | buffer => exact Array.size_replicate
  | text => exact hText
  | string => exact h .string

def blank (geometry : Geometry) (text : PageView) : Contents where
  bytes kind := Array.replicate (geometry.sizeOf kind) 0
  text := text
  window := .closed

theorem measures_blank {text : PageView} (hText : text.size = geometry.screen.textCells) :
    (blank geometry text).Measures geometry := by
  intro kind
  cases kind with
  | runtime => exact Array.size_replicate
  | graph => exact Array.size_replicate
  | buffer => exact Array.size_replicate
  | text => exact hText
  | string => exact Array.size_replicate

theorem size_ofSize_lt (kind : RegionKind) {size : Nat} (h : size < AddressSpace.sizeLimit) :
    (Region.ofSize kind size).size < AddressSpace.sizeLimit := by
  rwa [Region.ofSize, Region.size, Backing.size, Array.size_replicate]

theorem layout_space (hRange : geometry.InRange) {text : PageView}
    (hText : text.size = geometry.screen.textCells) {space : AddressSpace}
    (hOk : geometry.layout text = .ok space) :
    space = (blank geometry text).space ∧ space.LaidOut := by
  have hPage : (Region.ofPage text).size < AddressSpace.sizeLimit :=
    Nat.lt_of_le_of_lt (Nat.le_of_eq hText) hRange.screen.textCells_lt
  obtain ⟨space₁, hInstall₁, hOk⟩ := AddressSpace.exists_of_install_bind hOk
  obtain ⟨space₂, hInstall₂, hOk⟩ := AddressSpace.exists_of_install_bind hOk
  obtain ⟨space₃, hInstall₃, hOk⟩ := AddressSpace.exists_of_install_bind hOk
  obtain ⟨space₄, hInstall₄, hInstall₅⟩ := AddressSpace.exists_of_install_bind hOk
  have hLaid : space.LaidOut :=
    ((((AddressSpace.laidOut_empty.of_install (size_ofSize_lt _ hRange.runtime_lt)
      hInstall₁).of_install (size_ofSize_lt _ hRange.screen.bitmapBytes_lt)
      hInstall₂).of_install (size_ofSize_lt _ hRange.screen.bitmapBytes_lt)
      hInstall₃).of_install hPage hInstall₄).of_install (size_ofSize_lt _ hRange.string_lt) hInstall₅
  refine ⟨eq_space hLaid ?_, hLaid⟩
  rw [AddressSpace.map_unplaced_install hInstall₅, AddressSpace.map_unplaced_install hInstall₄,
    AddressSpace.map_unplaced_install hInstall₃, AddressSpace.map_unplaced_install hInstall₂,
    AddressSpace.map_unplaced_install hInstall₁]
  rfl

theorem exists_layout (hRange : geometry.InRange) (hFits : geometry.Fits) {text : PageView}
    (hText : text.size = geometry.screen.textCells) :
    ∃ space, geometry.layout text = .ok space := by
  have hOwn (kind : RegionKind) (size : Nat) : (Region.ofSize kind size).size = size :=
    Array.size_replicate
  have hPage : (Region.ofPage text).size = geometry.screen.textCells := hText
  have hPageLt : (Region.ofPage text).size < AddressSpace.sizeLimit :=
    Nat.lt_of_le_of_lt (Nat.le_of_eq hText) hRange.screen.textCells_lt
  have hRuntime : 0 < geometry.runtimeSize := hFits.occupied .runtime
  have hPicture : 0 < geometry.screen.bitmapBytes := hFits.occupied .graph
  have hCells : 0 < geometry.screen.textCells := hFits.occupied .text
  have hString : 0 < geometry.stringSize := hFits.occupied .string
  have hTotal := hFits.total_le
  rw [Geometry.total, Geometry.baseOf] at hTotal
  have hEmpty : AddressSpace.extent AddressSpace.empty.regions = 0 := rfl
  refine AddressSpace.laidOut_empty.exists_bind_install (size_ofSize_lt _ hRange.runtime_lt)
    (by rw [hOwn]; omega) (by rw [hOwn]; omega) fun space₁ hLaid₁ hExtent₁ => ?_
  rw [hOwn] at hExtent₁
  refine hLaid₁.exists_bind_install (size_ofSize_lt _ hRange.screen.bitmapBytes_lt)
    (by rw [hOwn]; omega) (by rw [hOwn]; omega) fun space₂ hLaid₂ hExtent₂ => ?_
  rw [hOwn] at hExtent₂
  refine hLaid₂.exists_bind_install (size_ofSize_lt _ hRange.screen.bitmapBytes_lt)
    (by rw [hOwn]; omega) (by rw [hOwn]; omega) fun space₃ hLaid₃ hExtent₃ => ?_
  rw [hOwn] at hExtent₃
  refine hLaid₃.exists_bind_install hPageLt
    (by rw [hPage]; omega) (by rw [hPage]; omega) fun space₄ hLaid₄ hExtent₄ => ?_
  rw [hPage] at hExtent₄
  obtain ⟨space₅, hInstall, -⟩ := hLaid₄.exists_install (size_ofSize_lt .string hRange.string_lt)
    (by rw [hOwn]; omega) (by rw [hOwn]; omega)
  exact ⟨space₅, hInstall⟩

end Contents
end Handheld
