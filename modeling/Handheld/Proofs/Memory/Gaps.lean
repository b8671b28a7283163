import Handheld.Proofs.Memory.Spans

/-! # The first byte that is missing

An access goes on byte by byte to the first one that belongs to no region, and which one that is
follows from the total alone. A read that succeeds has stayed below the total, unless memory takes
up all addresses: there the distances of a read from address zero come round and begin again. And
an access that would run past the last of all addresses is refused in the name of the address at
which it began, which belongs to a region.
-/
set_option autoImplicit false
namespace Handheld

def Backing.Answers (pages : TextPages) (backing : Backing) : Prop :=
  ∀ offset < backing.size,
    offset < backing.reach ∧ ∃ value, backing.read? pages offset = some value

theorem Backing.StoredOn.answers {pages : TextPages} {backing : Backing}
    (h : backing.StoredOn pages) : backing.Answers pages := by
  intro offset hOffset
  rw [h.reach_eq]
  exact ⟨hOffset, h.exists_read? hOffset⟩

namespace Backing.Answers
variable {pages : TextPages} {backing : Backing}

theorem onPages (h : backing.Answers pages) (changed : Backing) (offset : Nat) (value : UInt8) :
    backing.Answers (changed.onPages (·.setIfInBounds offset value) pages) := by
  cases backing with
  | bytes | reserved => exact h
  | page view =>
    cases changed with
    | bytes | reserved => exact h
    | page other =>
      intro place hPlace
      obtain ⟨hReach, old, hOld⟩ := h place hPlace
      refine ⟨hReach, Option.isSome_iff_exists.mp ?_⟩
      rw [Backing.onPages, read?, TextPages.page_modify]
      rw [read?, Array.getElem?_eq_some_iff] at hOld
      obtain ⟨hSize, -⟩ := hOld
      split
      · simpa using hSize
      · simpa using hSize

theorem set (h : backing.Answers pages) (offset : Nat) (value : UInt8) :
    (backing.set offset value).Answers pages := by
  cases backing with
  | page | reserved => exact h
  | bytes data =>
    have hStored : ((bytes data).set offset value).StoredOn pages := trivial
    exact hStored.answers

end Backing.Answers

namespace Store
open AddressSpace
variable {store : Store} {addr there : UInt32} {distance count size : Nat}

variable {total : Nat} {missing : UInt32}

/-- The address in whose name the byte at a distance is refused, if only the addresses below a
total belong to regions. -/
def gap? (total : Nat) (addr : UInt32) (distance : Nat) : Option UInt32 :=
  match advance addr distance with
  | .error _ => some addr
  | .ok there => if there.toNat < total then none else some there

def firstGap? (total : Nat) (addr : UInt32) : Nat → Nat → Option UInt32
  | _, 0 => none
  | distance, count + 1 =>
    match gap? total addr distance with
    | some missing => some missing
    | none => firstGap? total addr (distance + 1) count

theorem firstGap?_eq_none (h : ∀ i < count, gap? total addr (distance + i) = none) :
    firstGap? total addr distance count = none := by
  induction count generalizing distance with
  | zero => rfl
  | succ count ih =>
    have hHere : gap? total addr distance = none := h 0 (Nat.succ_pos _)
    have hRest : ∀ i < count, gap? total addr (distance + 1 + i) = none := by
      intro i hi
      rw [Nat.add_assoc, Nat.add_comm 1]
      exact h (i + 1) (Nat.succ_lt_succ hi)
    rw [firstGap?, hHere]
    exact ih hRest

theorem firstGap?_eq_some {k : Nat} (hk : k < count)
    (hBefore : ∀ i < k, gap? total addr (distance + i) = none)
    (hGap : gap? total addr (distance + k) = some missing) :
    firstGap? total addr distance count = some missing := by
  induction k generalizing distance count with
  | zero =>
    obtain ⟨count, rfl⟩ := Nat.exists_eq_add_of_lt hk
    rw [Nat.zero_add, firstGap?, show gap? total addr distance = some missing from hGap]
  | succ k ih =>
    obtain ⟨count, rfl⟩ := Nat.exists_eq_add_of_lt hk
    have hHere : gap? total addr distance = none := hBefore 0 (Nat.succ_pos _)
    rw [firstGap?, hHere]
    apply ih (by omega)
    · intro i hi
      rw [Nat.add_assoc, Nat.add_comm 1]
      exact hBefore (i + 1) (Nat.succ_lt_succ hi)
    · rw [Nat.add_assoc, Nat.add_comm 1]
      exact hGap

theorem gap?_of_lt (hTotal : total ≤ addressLimit) (hLess : addr.toNat + distance < total) :
    gap? total addr distance = none := by
  have hBelow : addr.toNat + distance < addressLimit := Nat.lt_of_lt_of_le hLess hTotal
  rw [gap?, advance_eq (by omega), if_pos hBelow]
  dsimp only
  rw [toNat_advance hBelow, if_pos hLess]

theorem gap?_of_zero (distance : Nat) : gap? addressLimit 0 distance = none := by
  have hBelow : distance % addressLimit < addressLimit := Nat.mod_lt _ (by decide)
  have hAdvance : advance 0 distance = .ok (UInt32.ofNat (distance % addressLimit)) := by
    rw [advance, UInt32.toNat_zero, Nat.zero_add]
    exact if_pos hBelow
  rw [gap?, hAdvance]
  dsimp only
  rw [toNat_advance hBelow, if_pos hBelow]

theorem gap?_at_total (hTotal : total ≤ addressLimit) (hStart : addr ≠ 0 ∨ total < addressLimit) :
    gap? total addr (total - addr.toNat) =
      some (if total = addressLimit then addr else UInt32.ofNat (max addr.toNat total)) := by
  have hAddr : addr.toNat < addressLimit := addr.toNat_lt
  have hDistance : total - addr.toNat < addressLimit := by
    rcases hStart with hNonzero | hRoom
    · have hPos : addr.toNat ≠ 0 := fun hZero => hNonzero (UInt32.toNat_inj.mp hZero)
      omega
    · omega
  have hSum : addr.toNat + (total - addr.toNat) = max addr.toNat total := by omega
  rw [gap?, advance_eq hDistance, hSum]
  by_cases hFull : total = addressLimit
  · rw [if_neg (by omega), if_pos hFull]
  · have hBelow : max addr.toNat total < addressLimit := by omega
    rw [if_pos hBelow, if_neg hFull]
    dsimp only
    rw [toNat_advance hBelow, if_neg (by omega)]

theorem firstGap?_eq (hTotal : total ≤ addressLimit) (addr : UInt32) (size : Nat) :
    firstGap? total addr 0 size =
      if size = 0 ∨ addr.toNat + size ≤ total ∨ (addr = 0 ∧ total = addressLimit) then none
      else some (if total = addressLimit then addr else UInt32.ofNat (max addr.toNat total)) := by
  split
  · rename_i hWithin
    apply firstGap?_eq_none
    intro i hi
    rw [Nat.zero_add]
    obtain hNone | hEnd | ⟨rfl, rfl⟩ := hWithin
    · omega
    · exact gap?_of_lt hTotal (by omega)
    · exact gap?_of_zero i
  · rename_i hBeyond
    rw [not_or, not_or] at hBeyond
    obtain ⟨hSome, hEnd, hStart⟩ := hBeyond
    have hPlace : addr ≠ 0 ∨ total < addressLimit := by
      by_cases hZero : addr = 0
      · have hNotFull : total ≠ addressLimit := fun hFull => hStart ⟨hZero, hFull⟩
        exact .inr (by omega)
      · exact .inl hZero
    have hGap := gap?_at_total hTotal hPlace
    rw [← Nat.zero_add (total - addr.toNat)] at hGap
    refine firstGap?_eq_some (by omega) ?_ hGap
    intro i hi
    rw [Nat.zero_add]
    exact gap?_of_lt hTotal (by omega)

/-- The address that is named is missing itself, or it is the one from which an access would run
past the last of all addresses. -/
theorem missing_cases (hTotal : total ≤ addressLimit)
    (h : firstGap? total addr 0 size = some missing) :
    total ≤ missing.toNat ∨
      missing = addr ∧ addr ≠ 0 ∧ total = addressLimit ∧ addressLimit < addr.toNat + size := by
  rw [firstGap?_eq hTotal] at h
  split at h
  · cases h
  · rename_i hBeyond
    rw [not_or, not_or] at hBeyond
    obtain ⟨-, hEnd, hStart⟩ := hBeyond
    rw [Option.some_inj] at h
    split at h
    · rename_i hFull
      exact .inr ⟨h.symm, fun hZero => hStart ⟨hZero, hFull⟩, hFull, by omega⟩
    · have hBelow : max addr.toNat total < addressLimit := by
        have hAddr : addr.toNat < addressLimit := addr.toNat_lt
        omega
      rw [← h, toNat_advance hBelow]
      exact .inl (Nat.le_max_right _ _)

def refusal? {α : Type} : Except MemoryError α → Option MemoryError
  | .error e => some e
  | .ok _ => none

theorem advance_of_error {e : MemoryError} (h : advance addr distance = .error e) :
    e = .unmapped addr := by
  rw [advance] at h
  split at h
  · cases h
  · cases h
    rfl

theorem readByte_cases (h : store.space.LaidOut) (hAddr : addr.toNat < extent store.space.regions) :
    (∃ value, store.readByte addr = .ok value) ∨
      (∃ e, store.readByte addr = .error (.region e)) ∧
        ∃ region ∈ store.space.regions, ¬ region.backing.Answers store.pages := by
  obtain ⟨i, region, hFind, hRegion, hContains⟩ := h.exists_find? hAddr
  obtain ⟨hSum, hOffset⟩ := h.offset_of_contains hRegion hContains
  have hByte : store.readByte addr = (region.read store.pages addr).mapError .region := by
    simp only [readByte, hFind, hRegion]
  cases hRead : region.read store.pages addr with
  | ok value =>
    rw [hRead] at hByte
    exact .inl ⟨value, hByte⟩
  | error e =>
    rw [hRead] at hByte
    refine .inr ⟨⟨e, hByte⟩, region, List.mem_of_getElem? hRegion, fun hAnswers => ?_⟩
    obtain ⟨hReach, value, hValue⟩ := hAnswers _ hOffset
    cases hByte.symm.trans (readByte_of_offset h hRegion hOffset hReach hSum hValue)

theorem writeByte_below (h : store.space.LaidOut) (hAddr : addr.toNat < extent store.space.regions)
    (value : UInt8) :
    (∃ i offset, store.writeByte addr value = .done (store.setAt i offset value)) ∨
      (∃ e, store.writeByte addr value = .stopped (.region e) store) ∧
        ∃ region ∈ store.space.regions, ¬ region.backing.Answers store.pages := by
  obtain ⟨i, region, hFind, hRegion, hContains⟩ := h.exists_find? hAddr
  obtain ⟨hSum, hOffset⟩ := h.offset_of_contains hRegion hContains
  cases hWrite : region.write store.pages addr value with
  | error e =>
    refine .inr ⟨⟨e, ?_⟩, region, List.mem_of_getElem? hRegion, fun hAnswers => ?_⟩
    · simp only [writeByte, hFind, hRegion, hWrite]
    · obtain ⟨hReach, old, hOld⟩ := hAnswers _ hOffset
      simp only [Region.write, offset_eq_ok hSum hReach, hOld] at hWrite
      cases hWrite
  | ok written =>
    obtain ⟨e, hRefused⟩ | hSet := store.writeByte_cases addr value
    · have hFault := congrArg Attempt.fault hRefused
      simp only [writeByte, hFind, hRegion, hWrite] at hFault
      cases hFault
    · exact .inl hSet

theorem advance_of_gap (hGap : gap? total addr distance = some missing) :
    advance addr distance = .error (.unmapped missing) ∨
      advance addr distance = .ok missing ∧ ¬ missing.toNat < total := by
  rw [gap?] at hGap
  cases hAdvance : advance addr distance with
  | error e =>
    rw [hAdvance] at hGap
    cases hGap
    rw [advance_of_error hAdvance]
    exact .inl rfl
  | ok there =>
    rw [hAdvance] at hGap
    dsimp only at hGap
    split at hGap
    · cases hGap
    · rename_i hAbove
      cases hGap
      exact .inr ⟨rfl, hAbove⟩

theorem advance_of_no_gap (hGap : gap? total addr distance = none) :
    ∃ there, advance addr distance = .ok there ∧ there.toNat < total := by
  rw [gap?] at hGap
  cases hAdvance : advance addr distance with
  | error e =>
    rw [hAdvance] at hGap
    cases hGap
  | ok there =>
    rw [hAdvance] at hGap
    dsimp only at hGap
    split at hGap
    · exact ⟨there, rfl, ‹_›⟩
    · cases hGap

theorem refusal?_readFrom (h : store.space.LaidOut) (addr : UInt32) (distance count : Nat)
    (acc : Array UInt8) :
    refusal? (store.readFrom addr distance count acc) =
        (firstGap? (extent store.space.regions) addr distance count).map .unmapped ∨
      (∃ e, refusal? (store.readFrom addr distance count acc) = some (.region e)) ∧
        ∃ region ∈ store.space.regions, ¬ region.backing.Answers store.pages := by
  induction count generalizing distance acc with
  | zero => exact .inl rfl
  | succ count ih =>
    rw [readFrom, firstGap?]
    cases hGap : gap? (extent store.space.regions) addr distance with
    | some missing =>
      have hRead : store.readAt addr distance = .error (.unmapped missing) := by
        obtain hAdvance | ⟨hAdvance, hAbove⟩ := advance_of_gap hGap
        · rw [readAt, hAdvance]
        · rw [readAt, hAdvance]
          exact (unmapped_of_not_lt_extent h hAbove).1
      rw [hRead]
      exact .inl rfl
    | none =>
      obtain ⟨there, hAdvance, hBelow⟩ := advance_of_no_gap hGap
      rw [readAt, hAdvance]
      dsimp only
      obtain ⟨value, hRead⟩ | ⟨⟨e, hRead⟩, hSilent⟩ := readByte_cases h hBelow
      · rw [hRead]
        exact ih (distance + 1) (acc.push value)
      · rw [hRead]
        exact .inr ⟨⟨e, rfl⟩, hSilent⟩

theorem exists_silent_of_setAt {i offset : Nat} {value : UInt8}
    (h : ∃ region ∈ (store.setAt i offset value).space.regions,
      ¬ region.backing.Answers (store.setAt i offset value).pages) :
    ∃ region ∈ store.space.regions, ¬ region.backing.Answers store.pages := by
  obtain ⟨region, hRegion, hSilent⟩ := h
  obtain ⟨j, hRegion⟩ := List.mem_iff_getElem?.mp hRegion
  rw [getElem?_setAt, Option.map_eq_some_iff] at hRegion
  obtain ⟨old, hOld, rfl⟩ := hRegion
  refine ⟨old, List.mem_of_getElem? hOld, fun hAnswers => hSilent ?_⟩
  have hAfter : old.backing.Answers (store.setAt i offset value).pages := by
    cases hChanged : store.space.regions[i]? with
    | none =>
      simp only [Store.setAt, hChanged]
      exact hAnswers
    | some changed =>
      rw [pages_setAt hChanged]
      exact hAnswers.onPages changed.backing offset value
  split
  · exact hAfter.set offset value
  · exact hAfter

/-- Bytes that were written do not change which one is missing. -/
theorem fault_writeFrom (h : store.space.LaidOut) (addr : UInt32) (distance : Nat)
    (data : List UInt8) :
    (writeFrom addr distance data store).fault =
        (firstGap? (extent store.space.regions) addr distance data.length).map .unmapped ∨
      (∃ e, (writeFrom addr distance data store).fault = some (.region e)) ∧
        ∃ region ∈ store.space.regions, ¬ region.backing.Answers store.pages := by
  induction data generalizing store distance with
  | nil => exact .inl rfl
  | cons value rest ih =>
    rw [writeFrom, List.length_cons, firstGap?]
    cases hGap : gap? (extent store.space.regions) addr distance with
    | some missing =>
      obtain hAdvance | ⟨hAdvance, hAbove⟩ := advance_of_gap hGap
      · rw [hAdvance]
        exact .inl rfl
      · rw [hAdvance]
        dsimp only
        rw [(unmapped_of_not_lt_extent h hAbove).2]
        exact .inl rfl
    | none =>
      obtain ⟨there, hAdvance, hBelow⟩ := advance_of_no_gap hGap
      rw [hAdvance]
      dsimp only
      obtain ⟨i, offset, hWrite⟩ | ⟨⟨e, hRefused⟩, hSilent⟩ := writeByte_below h hBelow value
      · rw [hWrite, Attempt.done_andThen, ← extent_setAt store i offset value]
        have hNext : (store.setAt i offset value).space.LaidOut :=
          h.modify (fun region => region.outline_set offset value) i
        exact (ih hNext (distance + 1)).imp_right (And.imp_right exists_silent_of_setAt)
      · rw [hRefused]
        exact .inr ⟨⟨e, rfl⟩, hSilent⟩

theorem readFrom_of_ok {acc result : Array UInt8}
    (h : store.readFrom addr distance count acc = .ok result) :
    ∃ data : List UInt8, result = acc ++ data.toArray ∧ data.length = count ∧
      ∀ i (hi : i < data.length), store.readAt addr (distance + i) = .ok data[i] := by
  induction count generalizing distance acc with
  | zero =>
    cases h
    exact ⟨[], by simp, rfl, fun i hi => absurd hi (Nat.not_lt_zero i)⟩
  | succ count ih =>
    rw [readFrom] at h
    cases hByte : store.readAt addr distance with
    | error e =>
      rw [hByte] at h
      cases h
    | ok value =>
      rw [hByte] at h
      obtain ⟨data, rfl, rfl, hBytes⟩ := ih h
      refine ⟨value :: data, by simp, rfl, fun i hi => ?_⟩
      cases i with
      | zero => exact hByte
      | succ i =>
        have hRest := hBytes i (Nat.lt_of_succ_lt_succ hi)
        rwa [Nat.add_assoc, Nat.add_comm 1] at hRest

theorem readByte_of_readAt {value : UInt8} (h : store.readAt addr distance = .ok value) :
    store.readByte (addr + UInt32.ofNat distance) = .ok value := by
  rw [readAt] at h
  cases hAdvance : advance addr distance with
  | error e =>
    rw [hAdvance] at h
    cases h
  | ok there =>
    rw [hAdvance] at h
    rw [advance] at hAdvance
    split at hAdvance
    · cases hAdvance
      have hSame : addr + UInt32.ofNat distance =
          UInt32.ofNat (addr.toNat + distance % 0x100000000) := by
        apply UInt32.toNat_inj.mp
        simp [UInt32.toNat_add, UInt32.toNat_ofNat']
      rw [hSame]
      exact h
    · cases hAdvance

theorem read_of_ok {data : List UInt8} (h : store.read addr size = .ok data) :
    data.length = size ∧
      ∀ i (hi : i < data.length), store.readByte (addr + UInt32.ofNat i) = .ok data[i] := by
  rw [read] at h
  cases hResult : store.readFrom addr 0 size #[] with
  | error e =>
    rw [hResult] at h
    cases h
  | ok result =>
    rw [hResult] at h
    obtain ⟨bytes, rfl, hLength, hBytes⟩ := readFrom_of_ok hResult
    obtain rfl : bytes = data := by simpa [Except.map] using h
    refine ⟨hLength, fun i hi => readByte_of_readAt ?_⟩
    have hByte := hBytes i hi
    rwa [Nat.zero_add] at hByte

theorem refusal?_map {α β : Type} (f : α → β) (result : Except MemoryError α) :
    refusal? (result.map f) = refusal? result := by
  cases result with
  | ok | error => rfl

theorem exists_ok_iff {α : Type} {result : Except MemoryError α} :
    (∃ value, result = .ok value) ↔ refusal? result = none := by
  cases result with
  | ok value => exact ⟨fun _ => rfl, fun _ => ⟨value, rfl⟩⟩
  | error e =>
    constructor
    · rintro ⟨_, ⟨⟩⟩
    · rintro ⟨⟩

inductive Access
  | read (size : Nat)
  | readHalfword
  | readWord
  | write (data : List UInt8)
  | writeHalfword (value : UInt16)
  | writeWord (value : UInt32)

namespace Access

def length : Access → Nat
  | read size => size
  | write data => data.length
  | readHalfword | writeHalfword _ => 2
  | readWord | writeWord _ => 4

def refusal? (store : Store) (addr : UInt32) : Access → Option MemoryError
  | read size => Store.refusal? (store.read addr size)
  | readHalfword => Store.refusal? (store.readHalfword addr)
  | readWord => Store.refusal? (store.readWord addr)
  | write data => (store.write addr data).fault
  | writeHalfword value => (store.writeHalfword addr value).fault
  | writeWord value => (store.writeWord addr value).fault

theorem refusal?_cases (h : store.space.LaidOut) (addr : UInt32) (access : Access) :
    access.refusal? store addr =
        (firstGap? (extent store.space.regions) addr 0 access.length).map .unmapped ∨
      (∃ e, access.refusal? store addr = some (.region e)) ∧
        ∃ region ∈ store.space.regions, ¬ region.backing.Answers store.pages := by
  have hRead (size : Nat) :
      Store.refusal? (store.read addr size) = Store.refusal? (store.readFrom addr 0 size #[]) :=
    refusal?_map _ _
  cases access with
  | read size =>
    rw [refusal?, hRead]
    exact refusal?_readFrom h addr 0 size #[]
  | readHalfword =>
    rw [refusal?, Store.readHalfword, refusal?_map, hRead]
    exact refusal?_readFrom h addr 0 2 #[]
  | readWord =>
    rw [refusal?, Store.readWord, refusal?_map, hRead]
    exact refusal?_readFrom h addr 0 4 #[]
  | write data => exact fault_writeFrom h addr 0 data
  | writeHalfword value => exact fault_writeFrom h addr 0 (toLittleEndian 2 value.toNat)
  | writeWord value => exact fault_writeFrom h addr 0 (toLittleEndian 4 value.toNat)

end Access

end Store

namespace AddressSpace

/-- A read that succeeds gives the bytes at the addresses from its begin on. None of them lies
beyond the total; only where memory takes up all addresses may a read from address zero be longer
than it. Where all regions answer, nothing else can stop a read. -/
theorem reading_of_calls {pages : TextPages} {calls : List LayoutCall}
    (hCalls : ∀ call ∈ calls, call.Allocatable) (addr : UInt32) (size : Nat) :
    let store : Store := ⟨builtBy calls, pages⟩
    let total := (builtBy calls).nextBase
    (∀ data, store.read addr size = .ok data →
      (size = 0 ∨ addr.toNat + size ≤ total ∨ (addr = 0 ∧ total = addressLimit)) ∧
      data.length = size ∧
      ∀ i (hi : i < data.length), store.readByte (addr + UInt32.ofNat i) = .ok data[i]) ∧
    ((∀ region ∈ (builtBy calls).regions, region.backing.Answers pages) →
      size = 0 ∨ addr.toNat + size ≤ total ∨ (addr = 0 ∧ total = addressLimit) →
      ∃ data, store.read addr size = .ok data) := by
  intro store total
  have h : LaidOut (builtBy calls) := laidOut_builtBy hCalls
  have hTotal : total = extent store.space.regions := h.nextBase_eq
  have hGap := Store.firstGap?_eq h.fits addr size
  have hRefusal := @Store.Access.refusal?_cases store h addr (.read size)
  rw [Store.Access.length, hGap] at hRefusal
  rw [hTotal]
  constructor
  · intro data hData
    refine ⟨?_, Store.read_of_ok hData⟩
    have hNone : (Store.Access.read size).refusal? store addr = none :=
      Store.exists_ok_iff.mp ⟨data, hData⟩
    by_contra hBeyond
    rw [if_neg hBeyond, hNone] at hRefusal
    obtain hSame | ⟨⟨e, hSame⟩, -⟩ := hRefusal
    · cases hSame
    · cases hSame
  · intro hAnswers hWithin
    rw [if_pos hWithin] at hRefusal
    obtain hNone | ⟨-, region, hRegion, hSilent⟩ := hRefusal
    · exact Store.exists_ok_iff.mpr hNone
    · exact absurd (hAnswers region hRegion) hSilent

/-- An access is refused in the name of an address that belongs to no region, or, where memory
takes up all addresses, in the name of the address from which it would run past the last of them.
Where all regions answer, this says for every access whether and how it is refused. -/
theorem refusal_of_calls {pages : TextPages} {calls : List LayoutCall}
    (hCalls : ∀ call ∈ calls, call.Allocatable) (addr : UInt32) (access : Store.Access) :
    let space := builtBy calls
    let store : Store := ⟨space, pages⟩
    let total := space.nextBase
    (∀ missing, access.refusal? store addr = some (.unmapped missing) →
      (∀ region ∈ space.regions, ¬ region.Contains missing) ∨
      missing = addr ∧ addr ≠ 0 ∧ total = addressLimit ∧
        addressLimit < addr.toNat + access.length ∧
        ∃ region ∈ space.regions, region.Contains missing) ∧
    ((∀ region ∈ space.regions, region.backing.Answers pages) →
      access.refusal? store addr =
        if access.length = 0 ∨ addr.toNat + access.length ≤ total ∨
            (addr = 0 ∧ total = addressLimit) then none
        else if total = addressLimit then some (.unmapped addr)
        else some (.unmapped (UInt32.ofNat (max addr.toNat total)))) := by
  intro space store total
  have h : LaidOut space := laidOut_builtBy hCalls
  have hTotal : total = extent store.space.regions := h.nextBase_eq
  have hRefusal := @Store.Access.refusal?_cases store h addr access
  constructor
  · intro missing hMissing
    rw [hMissing] at hRefusal
    obtain hSame | ⟨⟨e, hSame⟩, -⟩ := hRefusal
    · obtain ⟨_, hFirst, ⟨⟩⟩ := Option.map_eq_some_iff.mp hSame.symm
      obtain hAbove | ⟨rfl, hNonzero, hFull, hPast⟩ := Store.missing_cases h.fits hFirst
      · refine .inl fun region hRegion hContains => ?_
        have hBelow := h.exists_contains_iff.mp ⟨region, hRegion, hContains⟩
        exact absurd hBelow (Nat.not_lt.mpr hAbove)
      · have hBelow : missing.toNat < extent space.regions := hFull ▸ missing.toNat_lt
        exact .inr ⟨rfl, hNonzero, hTotal.trans hFull, hPast, h.exists_contains_iff.mpr hBelow⟩
    · cases hSame
  · intro hAnswers
    obtain hSame | ⟨-, region, hRegion, hSilent⟩ := hRefusal
    · rw [hSame, Store.firstGap?_eq h.fits addr access.length, ← hTotal]
      split
      · rfl
      · split
        · rfl
        · rfl
    · exact absurd (hAnswers region hRegion) hSilent

def wholeCalls : List LayoutCall := [.install (.ofSize .graph addressLimit)]

theorem wholeCalls_spec :
    (∀ call ∈ wholeCalls, call.Allocatable) ∧ (builtBy wholeCalls).nextBase = addressLimit ∧
      ∀ region ∈ (builtBy wholeCalls).regions, region.backing.Answers ⟨#[], #[]⟩ := by
  have hSize : (Region.ofSize .graph addressLimit).size = addressLimit := Array.size_replicate
  have hAllocatable : (Region.ofSize .graph addressLimit).size < sizeLimit := by
    rw [hSize]
    decide
  have hCalls : ∀ call ∈ wholeCalls, call.StoredOn ⟨#[], #[]⟩ := by
    intro call hCall
    rw [List.mem_singleton.mp hCall]
    exact ⟨hAllocatable, trivial⟩
  have hFits : extent empty.regions + (Region.ofSize .graph addressLimit).size ≤ addressLimit := by
    rw [hSize]
    exact Nat.le_of_eq (Nat.zero_add _)
  have hOccupied : 0 < (Region.ofSize .graph addressLimit).size := by
    rw [hSize]
    decide
  obtain ⟨after, hAfter, hLaid, hExtent⟩ :=
    laidOut_empty.exists_install hAllocatable hOccupied hFits
  have hBuilt : builtBy wholeCalls = after := by
    rw [builtBy, wholeCalls, List.foldl_cons, List.foldl_nil, LayoutCall.apply, hAfter]
  refine ⟨fun call hCall => (hCalls call hCall).allocatable, ?_, ?_⟩
  · rw [hBuilt, hLaid.nextBase_eq, hExtent, hSize]
    exact Nat.zero_add _
  · exact fun region hRegion => (storedOn_builtBy hCalls region hRegion).answers

/-- A read of more bytes than there are: behind the last address it goes on at the first. -/
theorem reading_of_wholeCalls :
    (∀ call ∈ wholeCalls, call.Allocatable) ∧ (builtBy wholeCalls).nextBase = addressLimit ∧
    ∃ data, Store.read ⟨builtBy wholeCalls, ⟨#[], #[]⟩⟩ 0 (addressLimit + 1) = .ok data ∧
      data.length = addressLimit + 1 := by
  obtain ⟨hCalls, hTotal, hAnswers⟩ := wholeCalls_spec
  obtain ⟨hBytes, hReads⟩ := @reading_of_calls ⟨#[], #[]⟩ _ hCalls 0 (addressLimit + 1)
  obtain ⟨data, hData⟩ := hReads hAnswers (.inr (.inr ⟨rfl, hTotal⟩))
  exact ⟨hCalls, hTotal, data, hData, (hBytes data hData).2.1⟩

/-- Of a halfword at the last address one byte is missing, and the one that is there is named. -/
theorem refusal_of_wholeCalls :
    (∀ call ∈ wholeCalls, call.Allocatable) ∧
    Store.Access.readHalfword.refusal? ⟨builtBy wholeCalls, ⟨#[], #[]⟩⟩ 0xffffffff =
      some (.unmapped 0xffffffff) ∧
    ∃ region ∈ (builtBy wholeCalls).regions, region.Contains 0xffffffff := by
  obtain ⟨hCalls, hTotal, hAnswers⟩ := wholeCalls_spec
  have hLaid := laidOut_builtBy hCalls
  obtain ⟨-, hRefusal⟩ := @refusal_of_calls ⟨#[], #[]⟩ _ hCalls 0xffffffff .readHalfword
  have hEnd : ¬ (Store.Access.readHalfword.length = 0 ∨
      (0xffffffff : UInt32).toNat + Store.Access.readHalfword.length ≤ addressLimit ∨
      ((0xffffffff : UInt32) = 0 ∧ addressLimit = addressLimit)) := by decide
  have hRefused := hRefusal hAnswers
  rw [hTotal, if_neg hEnd, if_pos rfl] at hRefused
  have hBelow : (0xffffffff : UInt32).toNat < extent (builtBy wholeCalls).regions := by
    rw [← hLaid.nextBase_eq, hTotal]
    decide
  exact ⟨hCalls, hRefused, hLaid.exists_contains_iff.mpr hBelow⟩

end AddressSpace
end Handheld
