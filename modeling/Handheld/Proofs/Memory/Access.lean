import Handheld.Memory.Store
import Handheld.Proofs.Memory.Search

/-! # Bytes of a laid-out space

A byte of a region is read and written at the base of the region plus its offset. A write changes
what one region keeps, or one page, and neither the layout nor the index.
-/
set_option autoImplicit false
namespace Handheld

theorem Region.write_cases (pages : TextPages) (region : Region) (addr : UInt32) (value : UInt8) :
    (∃ e, region.write pages addr value = .error e) ∨
      ∃ offset, region.write pages addr value =
        .ok (region.set offset value,
          region.backing.onPages (·.setIfInBounds offset value) pages) := by
  rw [write]
  split
  · exact .inl ⟨_, rfl⟩
  · split
    · exact .inr ⟨_, rfl⟩
    · exact .inl ⟨_, rfl⟩

namespace Store

variable {store : Store} {region : Region} {addr : UInt32} {i offset : Nat}

theorem offset_eq_ok (hAddr : addr.toNat = region.base.toNat + offset)
    (hReach : offset < region.backing.reach) : region.offset addr = .ok offset :=
  localOffset_eq_ok_iff.mpr ⟨hAddr, hReach⟩

theorem readByte_of_offset (h : store.space.LaidOut)
    (hRegion : store.space.regions[i]? = some region) (hOffset : offset < region.size)
    (hReach : offset < region.backing.reach) (hAddr : addr.toNat = region.base.toNat + offset)
    {value : UInt8} (hValue : region.backing.read? store.pages offset = some value) :
    store.readByte addr = .ok value := by
  have hFind := h.find?_of_offset hRegion hOffset hAddr
  simp only [readByte, hFind, hRegion, Region.read, offset_eq_ok hAddr hReach, hValue]
  rfl

theorem readByte_bytes (h : store.space.LaidOut) (hRegion : store.space.regions[i]? = some region)
    {data : Array UInt8} (hData : region.backing = .bytes data) (hOffset : offset < data.size)
    (hAddr : addr.toNat = region.base.toNat + offset) : store.readByte addr = .ok data[offset] := by
  have hSize : offset < region.size := by rwa [Region.size, hData]
  have hReach : offset < region.backing.reach := by rwa [hData]
  apply readByte_of_offset h hRegion hSize hReach hAddr
  rw [hData]
  exact Array.getElem?_eq_getElem hOffset

theorem readByte_page (h : store.space.LaidOut) (hRegion : store.space.regions[i]? = some region)
    {view : PageView} (hView : region.backing = .page view) (hOffset : offset < view.size)
    (hAddr : addr.toNat = region.base.toNat + offset) {value : UInt8}
    (hValue : (store.pages.page view.serial)[offset]? = some value) :
    store.readByte addr = .ok value := by
  have hSize : offset < region.size := by rwa [Region.size, hView]
  have hReach : offset < region.backing.reach := by rwa [hView]
  apply readByte_of_offset h hRegion hSize hReach hAddr
  rwa [hView]

def setAt (store : Store) (i offset : Nat) (value : UInt8) : Store :=
  let pages := match store.space.regions[i]? with
    | none => store.pages
    | some region => region.backing.onPages (·.setIfInBounds offset value) store.pages
  let regions := store.space.regions.modify i fun region => region.set offset value
  ⟨{ store.space with regions }, pages⟩

theorem setAt_eq (hRegion : store.space.regions[i]? = some region) (offset : Nat)
    (value : UInt8) :
    store.setAt i offset value =
      ⟨store.space.setRegion i (region.set offset value),
        region.backing.onPages (·.setIfInBounds offset value) store.pages⟩ := by
  have hModify : (store.space.regions.modify i fun region => region.set offset value) =
      store.space.regions.set i (region.set offset value) := by
    obtain ⟨hLength, hGet⟩ := List.getElem?_eq_some_iff.mp hRegion
    apply List.ext_getElem?
    intro j
    rw [List.getElem?_modify, List.getElem?_set]
    by_cases hSame : i = j
    · subst hSame
      simp [hLength, hGet]
    · simp [hSame]
  simp only [setAt, hRegion, hModify, AddressSpace.setRegion]

theorem writeByte_cases (store : Store) (addr : UInt32) (value : UInt8) :
    (∃ e, store.writeByte addr value = .stopped e store) ∨
      ∃ i offset, store.writeByte addr value = .done (store.setAt i offset value) := by
  rw [writeByte]
  split
  · exact .inl ⟨_, rfl⟩
  · split
    · exact .inl ⟨_, rfl⟩
    · rename_i i _ _ region hRegion
      obtain ⟨e, hRefused⟩ | ⟨offset, hWrite⟩ := region.write_cases store.pages addr value
      · rw [hRefused]
        exact .inl ⟨_, rfl⟩
      · rw [hWrite]
        exact .inr ⟨i, offset, congrArg Attempt.done (setAt_eq hRegion offset value).symm⟩

theorem writeByte_of_offset (h : store.space.LaidOut)
    (hRegion : store.space.regions[i]? = some region) (hOffset : offset < region.size)
    (hReach : offset < region.backing.reach) (hAddr : addr.toNat = region.base.toNat + offset)
    {old : UInt8} (hOld : region.backing.read? store.pages offset = some old) (value : UInt8) :
    store.writeByte addr value = .done (store.setAt i offset value) := by
  have hFind := h.find?_of_offset hRegion hOffset hAddr
  simp only [writeByte, hFind, hRegion, Region.write, offset_eq_ok hAddr hReach, hOld,
    setAt_eq hRegion]

end Store
end Handheld
