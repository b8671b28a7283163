import Handheld.Proofs.Memory.Access
import Handheld.Proofs.Memory.LayoutCalls
import Mathlib.Data.List.Induction

/-! # Routing of addresses

Where every region of a built space has storage behind all of its addresses, the region that the
search finds never refuses an access. An address below the total leads to the one byte that its
region keeps for it, and an address from the total on leads nowhere.
-/
set_option autoImplicit false
namespace Handheld

/-- Behind every address of a region there is a byte, of its own or on one of the pages. -/
def Backing.StoredOn (pages : TextPages) : Backing → Prop
  | bytes _ => True
  | page view => (pages.page view.serial).size = view.size
  | reserved _ _ => False

def LayoutCall.StoredOn (pages : TextPages) : LayoutCall → Prop
  | install region | replace region =>
    region.size < AddressSpace.sizeLimit ∧ region.backing.StoredOn pages
  | relayout => True

theorem LayoutCall.StoredOn.allocatable {pages : TextPages} {call : LayoutCall}
    (h : call.StoredOn pages) : call.Allocatable := by
  cases call with
  | install region => exact h.1
  | replace region => exact h.1
  | relayout => trivial

namespace Backing.StoredOn
variable {pages : TextPages} {backing : Backing}

theorem reach_eq (h : backing.StoredOn pages) : backing.reach = backing.size := by
  cases backing with
  | bytes data => rfl
  | page view => rfl
  | reserved extent backed => exact h.elim

theorem exists_read? (h : backing.StoredOn pages) {offset : Nat} (hOffset : offset < backing.size) :
    ∃ value, backing.read? pages offset = some value := by
  cases backing with
  | bytes data => exact ⟨_, Array.getElem?_eq_getElem hOffset⟩
  | page view => exact ⟨_, Array.getElem?_eq_getElem (Nat.lt_of_lt_of_eq hOffset h.symm)⟩
  | reserved extent backed => exact h.elim

end Backing.StoredOn

namespace AddressSpace

theorem forall_regions_apply {P : Region → Prop} (hPlace : ∀ region, P region.unplaced ↔ P region)
    {space : AddressSpace} (h : LaidOut space) (hAll : ∀ region ∈ space.regions, P region)
    {call : LayoutCall} (hCall : ∀ region, call = .install region ∨ call = .replace region → P region) :
    ∀ region ∈ (call.apply space).regions, P region := by
  have hOf (others : List Region) {after : AddressSpace}
      (hUnplaced : after.regions.map Region.unplaced = others.map Region.unplaced)
      (hOthers : ∀ region ∈ others, P region) : ∀ region ∈ after.regions, P region := by
    intro region hRegion
    have hMember : region.unplaced ∈ others.map Region.unplaced :=
      hUnplaced ▸ List.mem_map_of_mem hRegion
    obtain ⟨other, hOther, hSame⟩ := List.mem_map.mp hMember
    rw [← hPlace, ← hSame, hPlace]
    exact hOthers other hOther
  cases call with
  | install region =>
    rw [LayoutCall.apply]
    cases hAfter : space.install region with
    | error e => exact hAll
    | ok after =>
      refine hOf (space.regions ++ [region]) ?_ ?_
      · rw [map_unplaced_install hAfter, List.map_append, List.map_singleton]
      · intro other hOther
        rcases List.mem_append.mp hOther with hOld | hNew
        · exact hAll other hOld
        · rw [List.mem_singleton.mp hNew]
          exact hCall region (.inl rfl)
  | replace region =>
    rw [LayoutCall.apply]
    have hSet (i : Nat) : ∀ other ∈ space.regions.set i region, P other := by
      intro other hOther
      rcases List.mem_or_eq_of_mem_set hOther with hMember | hNew
      · exact hAll other hMember
      · rw [hNew]
        exact hCall region (.inr rfl)
    obtain ⟨-, hReplace⟩ | ⟨i, old, -, -, -, ⟨laid, hLaid, hReplace⟩ | ⟨e, -, hReplace⟩⟩ :=
      h.replace_cases region
    · rw [hReplace]
      exact hAll
    · rw [hReplace]
      exact hOf (space.regions.set i region) (map_unplaced_relayout hLaid) (hSet i)
    · rw [hReplace]
      dsimp only
      split
      · exact hSet i
      · exact hAll
  | relayout =>
    rw [LayoutCall.apply, h.relayout_eq]
    exact hAll

theorem builtBy_concat (calls : List LayoutCall) (call : LayoutCall) :
    builtBy (calls ++ [call]) = call.apply (builtBy calls) := by
  rw [builtBy, List.foldl_append]
  rfl

theorem storedOn_builtBy {pages : TextPages} {calls : List LayoutCall}
    (hCalls : ∀ call ∈ calls, call.StoredOn pages) :
    ∀ region ∈ (builtBy calls).regions, region.backing.StoredOn pages := by
  induction calls using List.reverseRecOn with
  | nil => exact nofun
  | append_singleton calls call ih =>
    have hBefore : ∀ earlier ∈ calls, earlier.StoredOn pages :=
      fun earlier hEarlier => hCalls earlier (List.mem_append_left _ hEarlier)
    have hLast : call.StoredOn pages := hCalls call (List.mem_append_right _ List.mem_cons_self)
    have hLaid : LaidOut (builtBy calls) :=
      laidOut_builtBy fun earlier hEarlier => (hBefore earlier hEarlier).allocatable
    rw [builtBy_concat]
    refine forall_regions_apply (fun _ => Iff.rfl) hLaid (ih hBefore) ?_
    rintro region (rfl | rfl)
    · exact hLast.2
    · exact hLast.2

namespace LaidOut
variable {space : AddressSpace} {region : Region} {addr : UInt32} {i : Nat}

theorem lt_extent_of_contains (h : LaidOut space) (hRegion : space.regions[i]? = some region)
    (hAddr : region.Contains addr) : addr.toNat < extent space.regions := by
  have hEnd := extent_take_le space.regions (i + 1)
  rw [← h.limit_eq hRegion] at hEnd
  exact Nat.lt_of_lt_of_le hAddr.2 hEnd

theorem find?_eq_none_iff (h : LaidOut space) :
    space.find? addr = none ↔ extent space.regions ≤ addr.toNat := by
  constructor
  · intro hNone
    by_contra hBelow
    obtain ⟨i, _, hFind, -⟩ := h.exists_find? (Nat.lt_of_not_le hBelow)
    cases hNone.symm.trans hFind
  · intro hAbove
    by_contra hSome
    obtain ⟨i, hFind⟩ := Option.ne_none_iff_exists'.mp hSome
    obtain ⟨region, hRegion, hContains⟩ := h.find?_eq_some_iff.mp hFind
    have hBelow := h.lt_extent_of_contains hRegion hContains
    omega

theorem eq_of_contains (h : LaidOut space) {other : Region} {j : Nat}
    (hRegion : space.regions[i]? = some region) (hOther : space.regions[j]? = some other)
    (hHolds : region.Contains addr) (hAlso : other.Contains addr) : i = j := by
  have hFirst : space.find? addr = some i := h.find?_eq_some_iff.mpr ⟨region, hRegion, hHolds⟩
  have hSecond : space.find? addr = some j := h.find?_eq_some_iff.mpr ⟨other, hOther, hAlso⟩
  exact Option.some_inj.mp (hFirst.symm.trans hSecond)

theorem exists_contains_iff (h : LaidOut space) :
    (∃ region ∈ space.regions, region.Contains addr) ↔ addr.toNat < extent space.regions := by
  constructor
  · rintro ⟨region, hMember, hContains⟩
    obtain ⟨i, hRegion⟩ := List.mem_iff_getElem?.mp hMember
    exact h.lt_extent_of_contains hRegion hContains
  · intro hBelow
    obtain ⟨i, region, hRegion, hContains⟩ := h.exists_contains hBelow
    exact ⟨region, List.mem_of_getElem? hRegion, hContains⟩

theorem offset_of_contains (h : LaidOut space) (hRegion : space.regions[i]? = some region)
    (hAddr : region.Contains addr) :
    addr.toNat = region.base.toNat + (addr.toNat - region.base.toNat) ∧
      addr.toNat - region.base.toNat < region.size := by
  obtain ⟨hLow, hHigh⟩ := hAddr
  rw [h.limit_eq hRegion, extent_take_succ hRegion, ← h.starts i region hRegion] at hHigh
  exact ⟨by omega, by omega⟩

/-- The search by halving finds what a scan of all regions finds. -/
theorem find?_eq_findIdx? (h : LaidOut space) (addr : UInt32) :
    space.find? addr = space.regions.findIdx? fun region => region.Contains addr := by
  cases hScan : space.regions.findIdx? fun region => region.Contains addr with
  | none =>
    rw [List.findIdx?_eq_none_iff] at hScan
    by_contra hSome
    obtain ⟨i, hFind⟩ := Option.ne_none_iff_exists'.mp hSome
    obtain ⟨region, hRegion, hContains⟩ := h.find?_eq_some_iff.mp hFind
    exact of_decide_eq_false (hScan region (List.mem_of_getElem? hRegion)) hContains
  | some i =>
    obtain ⟨hLength, hContains, -⟩ := List.findIdx?_eq_some_iff_getElem.mp hScan
    exact h.find?_eq_some_iff.mpr
      ⟨_, List.getElem?_eq_getElem hLength, of_decide_eq_true hContains⟩

end LaidOut

end AddressSpace

namespace Store
open AddressSpace
variable {store : Store} {addr : UInt32}

theorem exists_byte (h : store.space.LaidOut)
    (hStored : ∀ region ∈ store.space.regions, region.backing.StoredOn store.pages)
    (hAddr : addr.toNat < extent store.space.regions) :
    ∃ (i : Nat) (region : Region) (offset : Nat) (value : UInt8),
      store.space.find? addr = some i ∧ store.space.regions[i]? = some region ∧
      addr.toNat = region.base.toNat + offset ∧ offset < region.size ∧
      region.backing.read? store.pages offset = some value ∧ store.readByte addr = .ok value ∧
      ∀ new, store.writeByte addr new = .done (store.setAt i offset new) := by
  obtain ⟨i, region, hFind, hRegion, hContains⟩ := h.exists_find? hAddr
  have hBacking := hStored region (List.mem_of_getElem? hRegion)
  obtain ⟨hSum, hOffset⟩ := h.offset_of_contains hRegion hContains
  have hReach : addr.toNat - region.base.toNat < region.backing.reach := by
    rw [hBacking.reach_eq]
    exact hOffset
  obtain ⟨value, hValue⟩ := hBacking.exists_read? hOffset
  exact ⟨i, region, _, value, hFind, hRegion, hSum, hOffset, hValue,
    readByte_of_offset h hRegion hOffset hReach hSum hValue,
    fun new => writeByte_of_offset h hRegion hOffset hReach hSum hValue new⟩

theorem unmapped_of_not_lt_extent (h : store.space.LaidOut)
    (hAbove : ¬ addr.toNat < extent store.space.regions) :
    store.readByte addr = .error (.unmapped addr) ∧
      ∀ value, store.writeByte addr value = .stopped (.unmapped addr) store := by
  have hNone : store.space.find? addr = none :=
    h.find?_eq_none_iff.mpr (Nat.le_of_not_lt hAbove)
  constructor
  · rw [readByte, hNone]
  · intro value
    rw [writeByte, hNone]

theorem exists_readByte_iff (h : store.space.LaidOut)
    (hStored : ∀ region ∈ store.space.regions, region.backing.StoredOn store.pages) :
    (∃ value, store.readByte addr = .ok value) ↔ addr.toNat < extent store.space.regions := by
  constructor
  · rintro ⟨value, hRead⟩
    by_contra hAbove
    cases (unmapped_of_not_lt_extent h hAbove).1.symm.trans hRead
  · intro hBelow
    obtain ⟨_, _, _, value, _, _, _, _, _, hRead, -⟩ := exists_byte h hStored hBelow
    exact ⟨value, hRead⟩

theorem writeByte_succeeds_iff (h : store.space.LaidOut)
    (hStored : ∀ region ∈ store.space.regions, region.backing.StoredOn store.pages)
    (value : UInt8) :
    (store.writeByte addr value).fault = none ↔ addr.toNat < extent store.space.regions := by
  constructor
  · intro hWrite
    by_contra hAbove
    rw [(unmapped_of_not_lt_extent h hAbove).2 value] at hWrite
    cases hWrite
  · intro hBelow
    obtain ⟨_, _, _, _, _, _, _, _, _, _, hWrite⟩ := exists_byte h hStored hBelow
    rw [hWrite value]
    rfl

theorem not_refused_by_region (h : store.space.LaidOut)
    (hStored : ∀ region ∈ store.space.regions, region.backing.StoredOn store.pages) :
    (∀ e, store.readByte addr ≠ .error (.region e)) ∧
      ∀ value e, (store.writeByte addr value).fault ≠ some (.region e) := by
  by_cases hBelow : addr.toNat < extent store.space.regions
  · obtain ⟨_, _, _, _, _, _, _, _, _, hRead, hWrite⟩ := exists_byte h hStored hBelow
    constructor
    · intro e hRefused
      cases hRead.symm.trans hRefused
    · intro value e hRefused
      rw [hWrite value] at hRefused
      cases hRefused
  · obtain ⟨hRead, hWrite⟩ := unmapped_of_not_lt_extent h hBelow
    constructor
    · intro e hRefused
      cases hRead.symm.trans hRefused
    · intro value e hRefused
      rw [hWrite value] at hRefused
      cases hRefused

end Store

namespace AddressSpace

/-- In a space built of regions with storage the search finds the one region that holds an address,
and there is one exactly for the addresses below the total. There a byte can be read and written at
its offset in the region; from the total on the address is refused as belonging to no region, and
no access is ever refused by a region. -/
theorem routing_of_calls {pages : TextPages} {calls : List LayoutCall}
    (hCalls : ∀ call ∈ calls, call.StoredOn pages) (addr : UInt32) :
    let space := builtBy calls
    let store : Store := ⟨space, pages⟩
    space.find? addr = (space.regions.findIdx? fun region => region.Contains addr) ∧
    (∀ (i j : Nat) (region other : Region), space.regions[i]? = some region →
      space.regions[j]? = some other → region.Contains addr → other.Contains addr → i = j) ∧
    ((∃ region ∈ space.regions, region.Contains addr) ↔ addr.toNat < space.nextBase) ∧
    ((∃ value, store.readByte addr = .ok value) ↔ addr.toNat < space.nextBase) ∧
    (∀ value, (store.writeByte addr value).fault = none ↔ addr.toNat < space.nextBase) ∧
    (addr.toNat < space.nextBase →
      ∃ (i : Nat) (region : Region) (offset : Nat) (value : UInt8),
        space.find? addr = some i ∧ space.regions[i]? = some region ∧
        addr.toNat = region.base.toNat + offset ∧ offset < region.size ∧
        region.backing.read? pages offset = some value ∧ store.readByte addr = .ok value ∧
        ∀ new, store.writeByte addr new = .done (store.setAt i offset new)) ∧
    (¬ addr.toNat < space.nextBase → store.readByte addr = .error (.unmapped addr) ∧
      ∀ value, store.writeByte addr value = .stopped (.unmapped addr) store) ∧
    (∀ e, store.readByte addr ≠ .error (.region e)) ∧
    ∀ value e, (store.writeByte addr value).fault ≠ some (.region e) := by
  intro space store
  have h : LaidOut space := laidOut_builtBy fun call hCall => (hCalls call hCall).allocatable
  have hStored : ∀ region ∈ space.regions, region.backing.StoredOn pages :=
    storedOn_builtBy hCalls
  have hInside := @Store.exists_byte store addr h hStored
  have hOutside := @Store.unmapped_of_not_lt_extent store addr h
  obtain ⟨hReads, hWrites⟩ := @Store.not_refused_by_region store addr h hStored
  rw [h.nextBase_eq]
  refine ⟨h.find?_eq_findIdx? addr, ?_, h.exists_contains_iff,
    Store.exists_readByte_iff h hStored, Store.writeByte_succeeds_iff h hStored,
    hInside, hOutside, hReads, hWrites⟩
  intro i j region other hRegion hOther hHolds hAlso
  exact h.eq_of_contains hRegion hOther hHolds hAlso

def twoPages : TextPages := ⟨#[#[0x61, 0x62]], #[0x63, 0x64, 0x65]⟩

/-- The view of the old page is exchanged for that of the page in use, which is longer. -/
def pagedCalls : List LayoutCall :=
  [.install (.ofSize .runtime 4), .install (.ofPage ⟨0, 2⟩), .install (.ofSize .string 1),
    .replace (.ofPage twoPages.view), .install (.ofPage ⟨7, 0⟩)]

theorem routing_of_pagedCalls :
    (∀ call ∈ pagedCalls, call.StoredOn twoPages) ∧ (builtBy pagedCalls).nextBase = 8 ∧
    (builtBy pagedCalls).find? 6 = some 1 ∧
    (∃ value, Store.readByte ⟨builtBy pagedCalls, twoPages⟩ 6 = .ok value) ∧
    Store.readByte ⟨builtBy pagedCalls, twoPages⟩ 8 = .error (.unmapped 8) := by
  have hCalls : ∀ call ∈ pagedCalls, call.StoredOn twoPages := by
    simp [pagedCalls, LayoutCall.StoredOn, Backing.StoredOn, Region.ofSize, Region.ofPage,
      Region.size, Backing.size, TextPages.page, TextPages.view, twoPages, sizeLimit]
  have hTotal : (builtBy pagedCalls).nextBase = 8 := by decide +kernel
  have hScan : (builtBy pagedCalls).regions.findIdx? (fun region => region.Contains 6) = some 1 := by
    decide +kernel
  obtain ⟨hFind, -, -, hReads, -⟩ := routing_of_calls hCalls 6
  obtain ⟨-, -, -, -, -, -, hOutside, -⟩ := routing_of_calls hCalls 8
  refine ⟨hCalls, hTotal, hFind.trans hScan, ?_, ?_⟩
  · refine hReads.mpr ?_
    rw [hTotal]
    decide
  · refine (hOutside ?_).1
    rw [hTotal]
    decide

end AddressSpace
end Handheld
