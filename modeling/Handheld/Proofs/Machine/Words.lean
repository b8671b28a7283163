import Handheld.Proofs.Machine.Fitting

/-! # Words below the text

The regions in front of the text region keep their bytes themselves. Writing there succeeds, keeps
the shape of the contents and leaves the text pages alone, also where the bytes of one write fall
into several regions.
-/
set_option autoImplicit false
namespace Handheld

theorem PixelSize.le_bitmapBytes {size : PixelSize} (h : 0 < size.textCells) :
    10 ≤ size.bitmapBytes := by
  have hCols : 0 < size.width / 6 := Nat.pos_of_mul_pos_right h
  have hRows : 0 < size.height / 13 := Nat.pos_of_mul_pos_left h
  have hArea : 6 * 13 ≤ size.width * size.height :=
    Nat.mul_le_mul (by omega) (by omega)
  rw [PixelSize.bitmapBytes]
  omega

namespace Contents
variable {contents other : Contents} {geometry : Geometry}

theorem SameShape.refl (contents : Contents) : contents.SameShape contents :=
  ⟨fun _ => rfl, rfl, rfl⟩

theorem SameShape.trans {a b c : Contents} (hab : a.SameShape b) (hbc : b.SameShape c) :
    a.SameShape c where
  size_eq kind := (hbc.size_eq kind).trans (hab.size_eq kind)
  text_eq := hbc.text_eq.trans hab.text_eq
  window_eq := hbc.window_eq.trans hab.window_eq

theorem SameShape.size_region (h : contents.SameShape other) (kind : RegionKind) :
    (other.region kind).size = (contents.region kind).size := by
  simp only [Region.size, Contents.region, h.text_eq]
  split
  · rfl
  · exact h.size_eq kind

theorem SameShape.measures (h : contents.SameShape other) (hMeasures : contents.Measures geometry) :
    other.Measures geometry := fun kind => (h.size_region kind).trans (hMeasures kind)

theorem eight_le_baseOf_text (hFits : geometry.Fits) : 8 ≤ geometry.baseOf .text := by
  have hBitmap := PixelSize.le_bitmapBytes (hFits.occupied .text)
  rw [Geometry.baseOf]
  omega

theorem toNat_baseOf (hFits : geometry.Fits) (kind : RegionKind) :
    (UInt32.ofNat (geometry.baseOf kind)).toNat = geometry.baseOf kind := by
  have hLe := baseOf_add_sizeOf_le hFits kind
  have hPos := hFits.occupied kind
  apply UInt32.toNat_ofNat_of_lt'
  exact Nat.lt_of_lt_of_le (Nat.lt_add_of_pos_right hPos) hLe

theorem exists_kind (hMeasures : contents.Measures geometry) {n : Nat}
    (h : n < AddressSpace.extent contents.regions) :
    ∃ kind offset, offset < geometry.sizeOf kind ∧ n = geometry.baseOf kind + offset := by
  obtain ⟨i, region, hRegion, hStart, hEnd⟩ := AddressSpace.exists_extent_take h
  have hLength : i < 5 := (List.getElem?_eq_some_iff.mp hRegion).1
  obtain ⟨kind, rfl⟩ := RegionKind.exists_place hLength
  rw [getElem?_regions] at hRegion
  cases hRegion
  rw [extent_take_regions hMeasures] at hStart hEnd
  rw [hMeasures kind] at hEnd
  exact ⟨kind, n - geometry.baseOf kind, by omega, by omega⟩

theorem writeByte_below_text (hMeasures : contents.Measures geometry) (hFits : geometry.Fits)
    {addr : UInt32} (hAddr : addr.toNat < geometry.baseOf .text) (pages : TextPages)
    (value : UInt8) :
    ∃ other : Contents, contents.SameShape other ∧
      Store.writeByte ⟨contents.space, pages⟩ addr value = .done ⟨other.space, pages⟩ := by
  have hLaid := laidOut_space hMeasures hFits
  have hTotal : addr.toNat < AddressSpace.extent contents.regions := by
    have hStart := AddressSpace.extent_take_le contents.regions RegionKind.text.place
    rw [extent_take_regions hMeasures] at hStart
    omega
  obtain ⟨kind, offset, hOffset, hSum⟩ := exists_kind hMeasures hTotal
  have hKind : kind ≠ .text := by
    rintro rfl
    omega
  have hRegion := getElem?_space hMeasures kind
  have hBacking : (contents.region kind).backing = .bytes (contents.bytes kind) := by
    rw [Contents.region, if_neg hKind]
  have hSize : offset < (contents.bytes kind).size := by
    rwa [← hMeasures kind, Region.size, hBacking] at hOffset
  have hReach : offset < (contents.region kind).backing.reach := by rwa [hBacking]
  have hBase := toNat_baseOf hFits kind
  obtain ⟨old, hOld⟩ : ∃ old, (contents.region kind).backing.read? pages offset = some old := by
    rw [hBacking]
    exact ⟨_, Array.getElem?_eq_getElem hSize⟩
  have hWrite := @Store.writeByte_of_offset ⟨contents.space, pages⟩ _ addr _ offset hLaid hRegion
    (by rw [Region.size_moveTo, hMeasures kind]; exact hOffset) hReach
    (hSum.trans (congrArg (· + offset) hBase.symm)) old hOld value
  refine ⟨contents.write kind offset value, sameShape_write contents kind offset value, ?_⟩
  rw [hWrite, ← space_setAt hLaid pages kind offset value]
  congr 1
  simp only [Store.setAt, hRegion, Region.moveTo, hBacking, Backing.onPages]

theorem writeFrom_below_text (hMeasures : contents.Measures geometry) (hFits : geometry.Fits)
    {addr : UInt32} {distance : Nat} {data : List UInt8}
    (hEnd : addr.toNat + distance + data.length ≤ geometry.baseOf .text) (pages : TextPages) :
    ∃ other : Contents, contents.SameShape other ∧
      Store.writeFrom addr distance data ⟨contents.space, pages⟩ =
        .done ⟨other.space, pages⟩ := by
  induction data generalizing contents distance with
  | nil => exact ⟨contents, .refl contents, rfl⟩
  | cons value rest ih =>
    rw [List.length_cons] at hEnd
    have hLimit := baseOf_add_sizeOf_le hFits .text
    have hLimitEq : addressLimit = 0x100000000 := rfl
    have hModulo : distance % 0x100000000 = distance := Nat.mod_eq_of_lt (by omega)
    have hThere : Store.advance addr distance = .ok (UInt32.ofNat (addr.toNat + distance)) := by
      rw [Store.advance, hModulo, if_pos (by omega)]
    have hNat : (UInt32.ofNat (addr.toNat + distance)).toNat = addr.toNat + distance :=
      UInt32.toNat_ofNat_of_lt' (by change _ < 0x100000000; omega)
    have hBelow : (UInt32.ofNat (addr.toNat + distance)).toNat < geometry.baseOf .text := by
      omega
    have hRestEnd : addr.toNat + (distance + 1) + rest.length ≤ geometry.baseOf .text := by
      omega
    obtain ⟨middle, hMiddle, hWrite⟩ := writeByte_below_text hMeasures hFits hBelow pages value
    obtain ⟨last, hLast, hRest⟩ := ih (hMiddle.measures hMeasures) hRestEnd
    refine ⟨last, hMiddle.trans hLast, ?_⟩
    rw [Store.writeFrom, hThere]
    dsimp only
    rw [hWrite, Attempt.done_andThen, hRest]

theorem writeWord_below_text (hMeasures : contents.Measures geometry) (hFits : geometry.Fits)
    {addr : UInt32} (hEnd : addr.toNat + 4 ≤ geometry.baseOf .text) (pages : TextPages)
    (value : UInt32) :
    ∃ other : Contents, contents.SameShape other ∧
      Store.writeWord ⟨contents.space, pages⟩ addr value = .done ⟨other.space, pages⟩ := by
  apply writeFrom_below_text hMeasures hFits
  simpa [Store.toLittleEndian] using hEnd

end Contents
end Handheld
