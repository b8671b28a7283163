import Handheld.Proofs.Memory.Routing
import Mathlib.Algebra.Group.Nat.Defs
import Mathlib.Data.List.TakeDrop

/-! # Spans of memory

Where every address leads to a byte of its own, writing a byte is seen at that address and nowhere
else. A write of many bytes, which may run across regions, stores those in front of the first
address that leads nowhere; what it has stored is read back, and no other byte has changed.
-/
set_option autoImplicit false
namespace Handheld

def Backing.serial? : Backing → Option Nat
  | page view => some view.serial
  | bytes _ | reserved _ _ => none

theorem Backing.serial?_set (backing : Backing) (offset : Nat) (value : UInt8) :
    (backing.set offset value).serial? = backing.serial? := by
  cases backing with
  | _ => rfl

theorem Backing.size_set (backing : Backing) (offset : Nat) (value : UInt8) :
    (backing.set offset value).size = backing.size := by
  cases backing with
  | bytes data => simp [set, size]
  | page | reserved => rfl

namespace AddressSpace

/-- No page is behind two of the regions. -/
def Apart (regions : List Region) : Prop :=
  (regions.map fun region => region.backing.serial?).Pairwise fun page other =>
    page = none ∨ page ≠ other

instance (regions : List Region) : Decidable (Apart regions) := by
  unfold Apart
  infer_instance

theorem Apart.eq_of_serial {regions : List Region} (h : Apart regions) {i j : Nat}
    {region other : Region} (hRegion : regions[i]? = some region)
    (hOther : regions[j]? = some other) {serial : Nat}
    (hPage : region.backing.serial? = some serial) (hSame : other.backing.serial? = some serial) :
    i = j := by
  obtain ⟨hi, rfl⟩ := List.getElem?_eq_some_iff.mp hRegion
  obtain ⟨hj, rfl⟩ := List.getElem?_eq_some_iff.mp hOther
  have hPairs := List.pairwise_iff_getElem.mp h
  by_contra hNe
  obtain hBefore | hAfter := Nat.lt_or_gt_of_ne hNe
  · have hPair := hPairs i j (by simpa using hi) (by simpa using hj) hBefore
    simp [hPage, hSame] at hPair
  · have hPair := hPairs j i (by simpa using hj) (by simpa using hi) hAfter
    simp [hPage, hSame] at hPair

end AddressSpace

namespace TextPages

theorem page_modify (pages : TextPages) (serial other offset : Nat) (value : UInt8) :
    (pages.modify serial (·.setIfInBounds offset value)).page other =
      if other = serial then (pages.page other).setIfInBounds offset value
      else pages.page other := by
  by_cases hLive : serial = pages.retired.size
  · subst hLive
    rw [modify, if_pos rfl, page, page]
    split
    · rfl
    · rfl
  · rw [modify, if_neg hLive, page, page]
    simp only [Array.size_modify, Array.getD_eq_getD_getElem?, Array.getElem?_modify]
    by_cases hSame : other = serial
    · subst hSame
      simp only [if_neg hLive, if_true]
      cases pages.retired[other]? with
      | none => simp
      | some page => rfl
    · simp only [if_neg hSame, if_neg (Ne.symm hSame)]

end TextPages

namespace Backing
variable {backing other : Backing} {pages : TextPages} {offset place : Nat}

theorem read?_onPages (hApart : ∀ serial, other.serial? = some serial →
      backing.serial? ≠ some serial) (value : UInt8) :
    other.read? (backing.onPages (·.setIfInBounds offset value) pages) place =
      other.read? pages place := by
  cases other with
  | bytes | reserved => rfl
  | page view =>
    cases backing with
    | bytes | reserved => rfl
    | page mine =>
      have hOther : view.serial ≠ mine.serial :=
        fun hSame => hApart _ rfl (congrArg some hSame.symm)
      rw [onPages, read?, TextPages.page_modify, if_neg hOther, read?]

theorem StoredOn.read?_set (hStored : backing.StoredOn pages) (hOffset : offset < backing.size)
    (value : UInt8) :
    (backing.set offset value).read? (backing.onPages (·.setIfInBounds offset value) pages) place =
      if offset = place then some value else backing.read? pages place := by
  cases backing with
  | bytes data =>
    rw [set, read?, Array.getElem?_setIfInBounds, if_pos (show offset < data.size from hOffset)]
    rfl
  | page view =>
    have hSize : offset < (pages.page view.serial).size := by
      rw [show (pages.page view.serial).size = view.size from hStored]
      exact hOffset
    have hSet : (page view).set offset value = page view := rfl
    rw [hSet, onPages, read?, TextPages.page_modify, if_pos rfl, Array.getElem?_setIfInBounds,
      if_pos hSize, read?]
  | reserved => exact hStored.elim

theorem StoredOn.onPages (h : other.StoredOn pages) (value : UInt8) :
    other.StoredOn (backing.onPages (·.setIfInBounds offset value) pages) := by
  cases other with
  | bytes data => trivial
  | reserved => exact h
  | page view =>
    cases backing with
    | bytes | reserved => exact h
    | page mine =>
      rw [Backing.onPages, StoredOn, TextPages.page_modify]
      split
      · rw [Array.size_setIfInBounds]
        exact h
      · exact h

theorem StoredOn.set (h : backing.StoredOn pages) (value : UInt8) :
    (backing.set offset value).StoredOn pages := by
  cases backing with
  | bytes | page | reserved => exact h

end Backing

namespace Store
open AddressSpace
variable {store : Store} {addr there : UInt32}

/-- Every address below the total leads to a byte that no other address leads to. -/
structure Unshared (store : Store) : Prop where
  laid : store.space.LaidOut
  stored : ∀ region ∈ store.space.regions, region.backing.StoredOn store.pages
  apart : Apart store.space.regions

section Byte
variable {i offset : Nat} {region : Region}

theorem getElem?_setAt (store : Store) (i offset : Nat) (value : UInt8) (j : Nat) :
    (store.setAt i offset value).space.regions[j]? =
      store.space.regions[j]?.map fun region =>
        if i = j then region.set offset value else region := by
  rw [setAt, List.getElem?_modify]
  rfl

theorem pages_setAt (hRegion : store.space.regions[i]? = some region) (offset : Nat)
    (value : UInt8) :
    (store.setAt i offset value).pages =
      region.backing.onPages (·.setIfInBounds offset value) store.pages := by
  rw [setAt]
  dsimp only
  rw [hRegion]

theorem Unshared.setAt (h : Unshared store) (i offset : Nat) (value : UInt8) :
    Unshared (store.setAt i offset value) where
  laid := h.laid.modify (fun region => region.outline_set offset value) i
  stored other hOther := by
    obtain ⟨j, hOther⟩ := List.mem_iff_getElem?.mp hOther
    rw [getElem?_setAt, Option.map_eq_some_iff] at hOther
    obtain ⟨old, hOld, rfl⟩ := hOther
    have hBefore := h.stored old (List.mem_of_getElem? hOld)
    have hAfter : old.backing.StoredOn (store.setAt i offset value).pages := by
      cases hRegion : store.space.regions[i]? with
      | none =>
        simp only [Store.setAt, hRegion]
        exact hBefore
      | some region =>
        rw [pages_setAt hRegion]
        exact hBefore.onPages value
    split
    · exact hAfter.set value
    · exact hAfter
  apart := by
    have hSame (region : Region) :
        (region.set offset value).backing.serial? = region.backing.serial? :=
      region.backing.serial?_set offset value
    have hPages : ((store.setAt i offset value).space.regions.map (·.backing.serial?)) =
        store.space.regions.map (·.backing.serial?) := map_modify_of_eq hSame _ i
    rw [Apart, hPages]
    exact h.apart

theorem extent_setAt (store : Store) (i offset : Nat) (value : UInt8) :
    extent (store.setAt i offset value).space.regions = extent store.space.regions := by
  apply extent_congr
  exact map_modify_of_eq (fun region => region.backing.size_set offset value) _ i

theorem Unshared.exists_region_setAt (h : Unshared store)
    (hRegion : store.space.regions[i]? = some region) (hOffset : offset < region.size) {j : Nat}
    {other : Region} (hOther : store.space.regions[j]? = some other) (value : UInt8) :
    ∃ updated : Region, (store.setAt i offset value).space.regions[j]? = some updated ∧
      updated.base = other.base ∧ updated.size = other.size ∧
      ∀ place, updated.backing.read? (store.setAt i offset value).pages place =
        if i = j ∧ offset = place then some value else other.backing.read? store.pages place := by
  rw [getElem?_setAt, hOther, Option.map_some, pages_setAt hRegion]
  refine ⟨_, rfl, ?_⟩
  by_cases hSame : i = j
  · subst hSame
    obtain rfl : region = other := Option.some_inj.mp (hRegion.symm.trans hOther)
    simp only [if_true, true_and]
    refine ⟨rfl, region.backing.size_set offset value, fun place => ?_⟩
    exact (h.stored region (List.mem_of_getElem? hRegion)).read?_set hOffset value
  · simp only [hSame, if_false, false_and, true_and]
    refine fun place => Backing.read?_onPages ?_ value
    intro serial hPage hAlso
    exact hSame (h.apart.eq_of_serial hRegion hOther hAlso hPage)

theorem Unshared.readByte_setAt (h : Unshared store)
    (hRegion : store.space.regions[i]? = some region)
    (hAddr : addr.toNat = region.base.toNat + offset) (hOffset : offset < region.size)
    (value : UInt8) (there : UInt32) :
    (store.setAt i offset value).readByte there =
      if there = addr then .ok value else store.readByte there := by
  have hAfter := h.setAt i offset value
  by_cases hBelow : there.toNat < extent store.space.regions
  · obtain ⟨j, other, place, found, hFind, hOther, hThere, hPlace, hFound, hRead, -⟩ :=
      exists_byte h.laid h.stored hBelow
    have hHere : there = addr ↔ i = j ∧ offset = place := by
      constructor
      · rintro rfl
        have hAlso : store.space.find? there = some i :=
          h.laid.find?_of_offset hRegion hOffset hAddr
        obtain rfl : i = j := Option.some_inj.mp (hAlso.symm.trans hFind)
        obtain rfl : region = other := Option.some_inj.mp (hRegion.symm.trans hOther)
        exact ⟨rfl, by omega⟩
      · rintro ⟨rfl, rfl⟩
        obtain rfl : region = other := Option.some_inj.mp (hRegion.symm.trans hOther)
        exact UInt32.toNat_inj.mp (hThere.trans hAddr.symm)
    obtain ⟨updated, hNew, hBase, hSize, hValue⟩ :=
      h.exists_region_setAt hRegion hOffset hOther value
    have hReach : place < updated.backing.reach := by
      rw [(hAfter.stored updated (List.mem_of_getElem? hNew)).reach_eq]
      exact Nat.lt_of_lt_of_eq hPlace hSize.symm
    have hByte : updated.backing.read? (store.setAt i offset value).pages place =
        some (if there = addr then value else found) := by
      rw [hValue, hFound]
      simp only [hHere]
      split <;> rfl
    rw [hRead, readByte_of_offset hAfter.laid hNew (hSize ▸ hPlace) hReach (hBase ▸ hThere) hByte]
    split <;> rfl
  · have hAbove : ¬ there.toNat < extent (store.setAt i offset value).space.regions := by
      rwa [extent_setAt]
    have hElsewhere : there ≠ addr := by
      rintro rfl
      have hEnd := extent_take_le store.space.regions (i + 1)
      rw [extent_take_succ hRegion, ← h.laid.starts i region hRegion] at hEnd
      omega
    rw [if_neg hElsewhere, (unmapped_of_not_lt_extent hAfter.laid hAbove).1,
      (unmapped_of_not_lt_extent h.laid hBelow).1]

theorem Unshared.writeByte (h : Unshared store) (hAddr : addr.toNat < extent store.space.regions)
    (value : UInt8) :
    ∃ next, store.writeByte addr value = .done next ∧ Unshared next ∧
      extent next.space.regions = extent store.space.regions ∧
      ∀ there, next.readByte there = if there = addr then .ok value else store.readByte there := by
  obtain ⟨i, region, offset, -, -, hRegion, hSum, hOffset, -, -, hWrite⟩ :=
    exists_byte h.laid h.stored hAddr
  exact ⟨_, hWrite value, h.setAt i offset value, extent_setAt store i offset value,
    h.readByte_setAt hRegion hSum hOffset value⟩

end Byte

theorem advance_eq {distance : Nat} (hDistance : distance < addressLimit) :
    advance addr distance =
      if addr.toNat + distance < addressLimit then .ok (UInt32.ofNat (addr.toNat + distance))
      else .error (.unmapped addr) := by
  have hWord : distance % 0x100000000 = distance := Nat.mod_eq_of_lt hDistance
  rw [advance, hWord]

theorem toNat_advance {n : Nat} (h : n < addressLimit) : (UInt32.ofNat n).toNat = n :=
  UInt32.toNat_ofNat_of_lt' h

/-- What is read at an address once some bytes lie over a store from a start on. -/
def readOver (store : Store) (start : Nat) (bytes : List UInt8) (there : UInt32) :
    Except MemoryError UInt8 :=
  if there.toNat < start then store.readByte there
  else
    match bytes[there.toNat - start]? with
    | some value => .ok value
    | none => store.readByte there

@[simp] theorem readOver_nil (store : Store) (start : Nat) (there : UInt32) :
    store.readOver start [] there = store.readByte there := by
  simp [readOver]

theorem readOver_cons {next : Store} {value : UInt8}
    (hNext : ∀ there,
      next.readByte there = if there = addr then .ok value else store.readByte there)
    (rest : List UInt8) (there : UInt32) :
    next.readOver (addr.toNat + 1) rest there =
      store.readOver addr.toNat (value :: rest) there := by
  rw [readOver, readOver, hNext]
  obtain hBefore | hHere | hAfter := Nat.lt_trichotomy there.toNat addr.toNat
  · have hNe : there ≠ addr := fun hSame => Nat.ne_of_lt hBefore (congrArg UInt32.toNat hSame)
    rw [if_pos (by omega), if_pos hBefore, if_neg hNe]
  · obtain rfl := UInt32.toNat_inj.mp hHere
    simp
  · have hNe : there ≠ addr := fun hSame => Nat.ne_of_gt hAfter (congrArg UInt32.toNat hSame)
    have hPlace : there.toNat - addr.toNat = there.toNat - (addr.toNat + 1) + 1 := by omega
    rw [if_neg (by omega), if_neg hNe, if_neg (by omega), hPlace, List.getElem?_cons_succ]

theorem Unshared.writeFrom (h : Unshared store) {distance : Nat} {data : List UInt8}
    (hLength : distance + data.length ≤ addressLimit) :
    let total := extent store.space.regions
    let result := Store.writeFrom addr distance data store
    let stored := data.take (total - (addr.toNat + distance))
    Unshared result.state ∧ extent result.state.space.regions = total ∧
    (result.fault = none ↔ stored = data) ∧
    ∀ there, result.state.readByte there = store.readOver (addr.toNat + distance) stored there := by
  induction data generalizing store distance with
  | nil => simp [Store.writeFrom, Attempt.done, h]
  | cons value rest ih =>
    rw [List.length_cons] at hLength
    have hLimit := h.laid.fits
    rw [Store.writeFrom, advance_eq (by omega)]
    by_cases hBelow : addr.toNat + distance < extent store.space.regions
    · have hThere := toNat_advance (Nat.lt_of_lt_of_le hBelow hLimit)
      have hTake : extent store.space.regions - (addr.toNat + distance) =
          extent store.space.regions - (addr.toNat + (distance + 1)) + 1 := by omega
      obtain ⟨next, hWrite, hNext, hTotal, hBytes⟩ := h.writeByte (hThere.symm ▸ hBelow) value
      have hRestLength : distance + 1 + rest.length ≤ addressLimit := by omega
      obtain ⟨hLast, hEnd, hDone, hRest⟩ := ih hNext hRestLength
      simp only [if_pos (Nat.lt_of_lt_of_le hBelow hLimit), hWrite, Attempt.done_andThen, hTake,
        List.take_succ_cons, List.cons.injEq, true_and]
      rw [hTotal] at hEnd hDone hRest
      refine ⟨hLast, hEnd, hDone, fun there => (hRest there).trans ?_⟩
      have hOver := readOver_cons hBytes
        (rest.take (extent store.space.regions - (addr.toNat + (distance + 1)))) there
      rwa [hThere, Nat.add_assoc] at hOver
    · have hNothing : (value :: rest).take (extent store.space.regions - (addr.toNat + distance)) =
          [] := by
        rw [Nat.sub_eq_zero_of_le (by omega), List.take_zero]
      simp only [hNothing, readOver_nil]
      split
      · rename_i hFault
        exact ⟨h, rfl, by simp [Attempt.stopped], fun _ => rfl⟩
      · rename_i hAdvance
        split at hAdvance
        · rename_i hAddr
          cases hAdvance
          have hAbove : ¬ (UInt32.ofNat (addr.toNat + distance)).toNat <
              extent store.space.regions := by
            rwa [toNat_advance hAddr]
          rw [(unmapped_of_not_lt_extent h.laid hAbove).2, Attempt.stopped_andThen]
          exact ⟨h, rfl, by simp [Attempt.stopped], fun _ => rfl⟩
        · cases hAdvance

theorem readOver_inside {start i : Nat} {bytes : List UInt8} (hi : i < bytes.length)
    (hThere : there.toNat = start + i) : store.readOver start bytes there = .ok bytes[i] := by
  have hPlace : there.toNat - start = i := by omega
  rw [readOver, if_neg (by omega), hPlace, List.getElem?_eq_getElem hi]

theorem readOver_outside {start : Nat} {bytes : List UInt8}
    (hThere : there.toNat < start ∨ start + bytes.length ≤ there.toNat) :
    store.readOver start bytes there = store.readByte there := by
  rw [readOver]
  split
  · rfl
  · rw [List.getElem?_eq_none (by omega)]

theorem readOver_append {next : Store} {start : Nat} {bytes : List UInt8}
    (hNext : ∀ there, next.readByte there = store.readOver start bytes there) (more : List UInt8)
    (there : UInt32) :
    next.readOver (start + bytes.length) more there = store.readOver start (bytes ++ more) there := by
  rw [readOver, hNext]
  by_cases hBefore : there.toNat < start + bytes.length
  · rw [if_pos hBefore, readOver, readOver]
    split
    · rfl
    · rw [List.getElem?_append_left (by omega)]
  · have hInside : ¬ there.toNat < start := by omega
    have hPast : bytes[there.toNat - start]? = none := List.getElem?_eq_none (by omega)
    rw [if_neg hBefore, readOver, readOver, if_neg hInside, if_neg hInside, hPast,
      List.getElem?_append_right (by omega), Nat.sub_sub]

theorem readFrom_eq {data : List UInt8} {distance : Nat} {acc : Array UInt8}
    (hBytes : ∀ i (hi : i < data.length), store.readAt addr (distance + i) = .ok data[i]) :
    store.readFrom addr distance data.length acc = .ok (acc ++ data.toArray) := by
  induction data generalizing distance acc with
  | nil => simp [readFrom]
  | cons value rest ih =>
    have hFirst : store.readAt addr distance = .ok value := hBytes 0 (by simp)
    have hRest : ∀ i (hi : i < rest.length),
        store.readAt addr (distance + 1 + i) = .ok rest[i] := by
      intro i hi
      have hByte := hBytes (i + 1) (by simpa using hi)
      rwa [← Nat.add_assoc, Nat.add_right_comm] at hByte
    rw [List.length_cons, readFrom, hFirst]
    dsimp only
    rw [ih hRest]
    simp

theorem read_eq {data : List UInt8} (hEnd : addr.toNat + data.length ≤ addressLimit)
    (hBytes : ∀ i (hi : i < data.length) (there : UInt32), there.toNat = addr.toNat + i →
      store.readByte there = .ok data[i]) : store.read addr data.length = .ok data := by
  have hAt : ∀ i (hi : i < data.length), store.readAt addr (0 + i) = .ok data[i] := by
    intro i hi
    have hBelow : addr.toNat + i < addressLimit := by omega
    rw [Nat.zero_add, readAt, advance_eq (by omega), if_pos hBelow]
    exact hBytes i hi _ (toNat_advance hBelow)
  rw [read, readFrom_eq hAt]
  simp [Except.map]

theorem length_toLittleEndian (width value : Nat) :
    (toLittleEndian width value).length = width := by
  induction width generalizing value with
  | zero => rfl
  | succ width ih => rw [toLittleEndian, List.length_cons, ih]

theorem ofLittleEndian_toLittleEndian (width value : Nat) :
    ofLittleEndian (toLittleEndian width value) = value % 256 ^ width := by
  induction width generalizing value with
  | zero => rw [toLittleEndian, ofLittleEndian, Nat.pow_zero, Nat.mod_one]
  | succ width ih =>
    have hLow : (UInt8.ofNat value).toNat = value % 256 := UInt8.toNat_ofNat'
    rw [toLittleEndian, ofLittleEndian, ih, hLow, Nat.pow_succ', Nat.mod_mul]

theorem readHalfword_of_read {data : List UInt8} (h : store.read addr 2 = .ok data) :
    store.readHalfword addr = .ok (UInt16.ofNat (ofLittleEndian data)) := by
  rw [readHalfword, h]
  rfl

theorem readWord_of_read {data : List UInt8} (h : store.read addr 4 = .ok data) :
    store.readWord addr = .ok (UInt32.ofNat (ofLittleEndian data)) := by
  rw [readWord, h]
  rfl

theorem ofNat_halfword (value : UInt16) :
    UInt16.ofNat (ofLittleEndian (toLittleEndian 2 value.toNat)) = value := by
  have hLt : value.toNat < 256 ^ 2 := value.toNat_lt
  rw [ofLittleEndian_toLittleEndian, Nat.mod_eq_of_lt hLt]
  exact UInt16.ofNat_toNat

theorem ofNat_word (value : UInt32) :
    UInt32.ofNat (ofLittleEndian (toLittleEndian 4 value.toNat)) = value := by
  have hLt : value.toNat < 256 ^ 4 := value.toNat_lt
  rw [ofLittleEndian_toLittleEndian, Nat.mod_eq_of_lt hLt]
  exact UInt32.ofNat_toNat

theorem readWord_of_bytes {value : UInt32} (hEnd : addr.toNat + 4 ≤ addressLimit)
    (hBytes : ∀ i (hi : i < (toLittleEndian 4 value.toNat).length) (there : UInt32),
      there.toNat = addr.toNat + i → store.readByte there = .ok (toLittleEndian 4 value.toNat)[i]) :
    store.readWord addr = .ok value := by
  have hLength := length_toLittleEndian 4 value.toNat
  have hRead : store.read addr 4 = .ok (toLittleEndian 4 value.toNat) := by
    rw [← hLength]
    exact read_eq (by omega) hBytes
  rw [readWord_of_read hRead, ofNat_word]

namespace Unshared
variable (h : Unshared store) {data : List UInt8}
include h

theorem fault_write_eq_none_iff (hLength : data.length ≤ addressLimit) :
    (store.write addr data).fault = none ↔
      data = [] ∨ addr.toNat + data.length ≤ extent store.space.regions := by
  obtain ⟨-, -, hDone, -⟩ := @writeFrom store addr h 0 data (by rwa [Nat.zero_add])
  rw [write, hDone, Nat.add_zero, List.take_eq_self_iff]
  constructor
  · intro hAll
    by_cases hNone : data = []
    · exact .inl hNone
    · have hPos := List.length_pos_iff.mpr hNone
      exact .inr (by omega)
  · rintro (rfl | hEnd)
    · simp
    · omega

theorem readByte_write (hLength : data.length ≤ addressLimit) (there : UInt32) :
    (store.write addr data).state.readByte there =
      store.readOver addr.toNat (data.take (extent store.space.regions - addr.toNat)) there := by
  obtain ⟨-, -, -, hBytes⟩ := @writeFrom store addr h 0 data (by rwa [Nat.zero_add])
  exact hBytes there

theorem take_of_write (hLength : data.length ≤ addressLimit)
    (hDone : (store.write addr data).fault = none) :
    data.take (extent store.space.regions - addr.toNat) = data := by
  obtain ⟨-, -, hAll, -⟩ := @writeFrom store addr h 0 data (by rwa [Nat.zero_add])
  exact hAll.mp hDone

theorem read_write (hLength : data.length ≤ addressLimit)
    (hDone : (store.write addr data).fault = none) :
    (store.write addr data).state.read addr data.length = .ok data := by
  obtain rfl | hEnd := (h.fault_write_eq_none_iff hLength).mp hDone
  · rfl
  · refine read_eq (Nat.le_trans hEnd h.laid.fits) fun i hi there hThere => ?_
    rw [h.readByte_write hLength, h.take_of_write hLength hDone]
    exact readOver_inside hi hThere

end Unshared

end Store

namespace AddressSpace

/-- A write into a space whose regions have storage of their own succeeds if it is empty or ends
within the total, and is then read back, as bytes and as words. What it stores, also where it fails,
are the bytes in front of the first address that belongs to no region; all others are as before. -/
theorem span_of_calls {pages : TextPages} {calls : List LayoutCall}
    (hCalls : ∀ call ∈ calls, call.Allocatable)
    (hStored : ∀ region ∈ (builtBy calls).regions, region.backing.StoredOn pages)
    (hApart : Apart (builtBy calls).regions) (addr : UInt32) :
    let store : Store := ⟨builtBy calls, pages⟩
    let total := (builtBy calls).nextBase
    (∀ data : List UInt8, data.length ≤ addressLimit →
      let result := store.write addr data
      let stored := data.take (total - addr.toNat)
      (result.fault = none ↔ data = [] ∨ addr.toNat + data.length ≤ total) ∧
      (result.fault = none → stored = data ∧
        result.state.read addr data.length = .ok data ∧
        (data.length = 2 →
          result.state.readHalfword addr = .ok (UInt16.ofNat (Store.ofLittleEndian data))) ∧
        (data.length = 4 →
          result.state.readWord addr = .ok (UInt32.ofNat (Store.ofLittleEndian data)))) ∧
      (∀ i (hi : i < stored.length) (there : UInt32), there.toNat = addr.toNat + i →
        result.state.readByte there = .ok stored[i]) ∧
      ∀ there : UInt32, there.toNat < addr.toNat ∨ addr.toNat + stored.length ≤ there.toNat →
        result.state.readByte there = store.readByte there) ∧
    (∀ value : UInt16,
      let low := UInt8.ofNat value.toNat
      let high := UInt8.ofNat (value.toNat / 256)
      let result := store.writeHalfword addr value
      result = store.write addr [low, high] ∧
      (result.fault = none ↔ addr.toNat + 2 ≤ total) ∧
      (result.fault = none → result.state.readHalfword addr = .ok value)) ∧
    ∀ value : UInt32,
      let bytes := [value.toNat, value.toNat / 256, value.toNat / 256 / 256,
        value.toNat / 256 / 256 / 256].map UInt8.ofNat
      let result := store.writeWord addr value
      result = store.write addr bytes ∧
      (result.fault = none ↔ addr.toNat + 4 ≤ total) ∧
      (result.fault = none → result.state.readWord addr = .ok value) := by
  intro store total
  have hLaid : LaidOut (builtBy calls) := laidOut_builtBy hCalls
  have h : store.Unshared := ⟨hLaid, hStored, hApart⟩
  have hTotal : total = extent store.space.regions := hLaid.nextBase_eq
  rw [hTotal]
  refine ⟨?_, ?_, ?_⟩
  · intro data hLength result stored
    have hBytes := @Store.Unshared.readByte_write store addr h data hLength
    refine ⟨h.fault_write_eq_none_iff hLength, ?_, ?_, ?_⟩
    · intro hDone
      have hRead : result.state.read addr data.length = .ok data := h.read_write hLength hDone
      refine ⟨h.take_of_write hLength hDone, hRead, ?_, ?_⟩
      · intro hTwo
        exact Store.readHalfword_of_read (hTwo ▸ hRead)
      · intro hFour
        exact Store.readWord_of_read (hFour ▸ hRead)
    · intro i hi there hThere
      exact (hBytes there).trans (Store.readOver_inside hi hThere)
    · intro there hThere
      exact (hBytes there).trans (Store.readOver_outside hThere)
  · intro value low high result
    have hLength : [low, high].length ≤ addressLimit := by simp [addressLimit]
    refine ⟨rfl, (h.fault_write_eq_none_iff hLength).trans ?_, ?_⟩
    · simp
    · intro hDone
      have hRead := Store.readHalfword_of_read (h.read_write hLength hDone)
      exact hRead.trans (congrArg Except.ok (Store.ofNat_halfword value))
  · intro value bytes result
    have hLength : bytes.length ≤ addressLimit := by simp [bytes, addressLimit]
    refine ⟨rfl, (h.fault_write_eq_none_iff hLength).trans ?_, ?_⟩
    · simp [bytes]
    · intro hDone
      have hRead := Store.readWord_of_read (h.read_write hLength hDone)
      exact hRead.trans (congrArg Except.ok (Store.ofNat_word value))

/-- Runtime memory, a text page and strings have eight addresses. A word at the third of them ends
on the page; of four bytes from the seventh on, one is kept on the page and one among the strings. -/
theorem span_of_pagedCalls :
    let store : Store := ⟨builtBy pagedCalls, twoPages⟩
    let cut := store.write 6 [1, 2, 3, 4]
    (∀ call ∈ pagedCalls, call.Allocatable) ∧
    (∀ region ∈ (builtBy pagedCalls).regions, region.backing.StoredOn twoPages) ∧
    Apart (builtBy pagedCalls).regions ∧
    (store.writeWord 2 0x0a0b0c0d).fault = none ∧
    (store.writeWord 2 0x0a0b0c0d).state.readWord 2 = .ok 0x0a0b0c0d ∧
    cut.fault ≠ none ∧ cut.state.readByte 6 = .ok 1 ∧ cut.state.readByte 7 = .ok 2 ∧
    cut.state.readByte 5 = store.readByte 5 := by
  intro store cut
  have hWhole : ∀ call ∈ pagedCalls, call.StoredOn twoPages := by
    simp [pagedCalls, LayoutCall.StoredOn, Backing.StoredOn, Region.ofSize, Region.ofPage,
      Region.size, Backing.size, TextPages.page, TextPages.view, twoPages, sizeLimit]
  have hCalls : ∀ call ∈ pagedCalls, call.Allocatable :=
    fun call hCall => (hWhole call hCall).allocatable
  have hStored := storedOn_builtBy hWhole
  have hApart : Apart (builtBy pagedCalls).regions := by decide +kernel
  have hTotal : (builtBy pagedCalls).nextBase = 8 := by decide +kernel
  obtain ⟨hWrite, -⟩ := span_of_calls hCalls hStored hApart 6
  obtain ⟨hDone, -, hInside, hOutside⟩ := hWrite [1, 2, 3, 4] (by decide +kernel)
  rw [hTotal] at hDone hInside hOutside
  obtain ⟨-, -, hWord⟩ := span_of_calls hCalls hStored hApart 2
  obtain ⟨-, hFits, hBack⟩ := hWord 0x0a0b0c0d
  rw [hTotal] at hFits
  have hWritten : (store.writeWord 2 0x0a0b0c0d).fault = none := hFits.mpr (by decide)
  refine ⟨hCalls, hStored, hApart, hWritten, hBack hWritten, mt hDone.mp (by decide), ?_, ?_, ?_⟩
  · exact hInside 0 (by decide) 6 (by decide)
  · exact hInside 1 (by decide) 7 (by decide)
  · exact hOutside 5 (.inl (by decide))

end AddressSpace
end Handheld
